import IncidentPilot.Library.Windows
import IncidentPilot.Redaction

/-!
# The server of readonly tools

`safe_tool`, the repository argument, and `read_source_code` of
`ops_readonly/server.py`.  The reference repository is a parameter: what lies
at its paths, which of them have a symlink among their components, and how the
operating system resolves an absolute path.
-/

namespace IncidentPilot

/-- What comes of a limit of `safe_tool`: its own reply, or an exception. -/
inductive LimitFailure where
  | exceeded (message : String)
  | raised (message : String)
  deriving Repr, DecidableEq

/-- The limit on the arguments. -/
def toolInputLimit
    (json : JsonTools)
    (arguments : Json) : Except LimitFailure Unit :=
  match json.dumps arguments with
  | .error error => .error (.raised error.message)
  | .ok dumped =>
      if 16000 < dumped.length then
        .error (.exceeded "tool input limit exceeded")
      else
        .ok ()

/-- The limit on a result, given what `json.dumps` makes of it. -/
def toolOutputLimit
    (result : Except DumpsError String) : Except LimitFailure Unit :=
  match result with
  | .error error => .error (.raised error.message)
  | .ok dumped =>
      if 64000 < dumped.utf8ByteSize then
        .error (.exceeded "tool output limit exceeded")
      else
        .ok ()

/-- The dictionary that `safe_tool` returns where a limit is exceeded. -/
def limitFields (message : String) : List (String × Json) :=
  [("error", .string message)]

/-- What `safe_tool` returns or raises where a limit fails. -/
def LimitFailure.result
    {Reply : Type}
    (refused : List (String × Json) → Reply) :
    LimitFailure → Except String Reply
  | exceeded message => .ok (refused (limitFields message))
  | raised message => .error message

/-- The end of `safe_tool`, before redaction. -/
def limitedReply
    {Reply : Type}
    (dumps : Reply → Except DumpsError String)
    (refused : List (String × Json) → Reply)
    (reply : Reply) : Except String Reply :=
  match toolOutputLimit (dumps reply) with
  | .error failure => failure.result refused
  | .ok () => .ok reply

/-- `safe_tool`, before redaction; an error is an exception. -/
def limitedTool
    {Reply : Type}
    (json : JsonTools)
    (arguments : Json)
    (dumps : Reply → Except DumpsError String)
    (refused : List (String × Json) → Reply)
    (result : Except String Reply) : Except String Reply :=
  match toolInputLimit json arguments with
  | .error failure => failure.result refused
  | .ok () =>
      match result with
      | .error message => .error message
      | .ok reply => limitedReply dumps refused reply

/-- What the limit on the arguments comes to. -/
theorem toolInputLimit_cases (json : JsonTools) (arguments : Json) :
    (∃ error,
        json.dumps arguments = .error error ∧
          toolInputLimit json arguments =
            .error (.raised error.message)) ∨
      (∃ dumped,
        json.dumps arguments = .ok dumped ∧
          16000 < dumped.length ∧
          toolInputLimit json arguments =
            .error (.exceeded "tool input limit exceeded")) ∨
      toolInputLimit json arguments = .ok () := by
  unfold toolInputLimit
  cases json.dumps arguments with
  | error error =>
      exact .inl ⟨error, rfl, rfl⟩
  | ok dumped =>
      by_cases long : 16000 < dumped.length
      · exact .inr (.inl ⟨dumped, rfl, long, if_pos long⟩)
      · exact .inr (.inr (if_neg long))

/-- What the limit on a result comes to. -/
theorem toolOutputLimit_cases (result : Except DumpsError String) :
    (∃ error,
        result = .error error ∧
          toolOutputLimit result = .error (.raised error.message)) ∨
      (∃ dumped,
        result = .ok dumped ∧
          64000 < dumped.utf8ByteSize ∧
          toolOutputLimit result =
            .error (.exceeded "tool output limit exceeded")) ∨
      ∃ dumped,
        result = .ok dumped ∧
          dumped.utf8ByteSize ≤ 64000 ∧
          toolOutputLimit result = .ok () := by
  cases result with
  | error error =>
      exact .inl ⟨error, rfl, rfl⟩
  | ok dumped =>
      by_cases large : 64000 < dumped.utf8ByteSize
      · exact .inr (.inl ⟨dumped, rfl, large, if_pos large⟩)
      · exact
          .inr (.inr ⟨dumped, rfl, Nat.le_of_not_lt large, if_neg large⟩)

/-- The arguments of a call that passes all of them by keyword. -/
def keywordArguments (fields : List (String × Json)) : Json :=
  .array [.array [], .object fields]

/-- A limit that fails gives no other reply than its own. -/
theorem LimitFailure.result_ne_ok
    {Reply : Type}
    {refused : List (String × Json) → Reply}
    {shown : Reply}
    (foreign : ∀ fields, refused fields ≠ shown)
    (failure : LimitFailure) :
    failure.result refused ≠ .ok shown := by
  cases failure with
  | exceeded message =>
      intro same
      exact foreign _ (Except.ok.inj same)
  | raised message =>
      intro same
      cases same

/-- A reply is passed on if its text is within the limit. -/
theorem limitedReply_eq_ok
    {Reply : Type}
    {dumps : Reply → Except DumpsError String}
    {refused : List (String × Json) → Reply}
    {reply shown : Reply}
    (foreign : ∀ fields, refused fields ≠ shown) :
    limitedReply dumps refused reply = .ok shown ↔
      reply = shown ∧ toolOutputLimit (dumps reply) = .ok () := by
  unfold limitedReply
  cases toolOutputLimit (dumps reply) with
  | error failure =>
      simp [failure.result_ne_ok foreign]
  | ok _ =>
      simp

/-- A reply of the wrapped function is passed on within both limits. -/
theorem limitedTool_eq_ok
    {Reply : Type}
    {json : JsonTools}
    {arguments : Json}
    {dumps : Reply → Except DumpsError String}
    {refused : List (String × Json) → Reply}
    {result : Except String Reply}
    {shown : Reply}
    (foreign : ∀ fields, refused fields ≠ shown) :
    limitedTool json arguments dumps refused result = .ok shown ↔
      toolInputLimit json arguments = .ok () ∧
        result = .ok shown ∧
        toolOutputLimit (dumps shown) = .ok () := by
  unfold limitedTool
  cases toolInputLimit json arguments with
  | error failure =>
      simp [failure.result_ne_ok foreign]
  | ok _ =>
      cases result with
      | error message =>
          simp
      | ok reply =>
          dsimp only
          rw [limitedReply_eq_ok foreign]
          constructor
          · rintro ⟨rfl, within⟩
            exact ⟨rfl, rfl, within⟩
          · rintro ⟨-, same, within⟩
            cases same
            exact ⟨rfl, within⟩

/-- What is at a path of the reference repository. -/
inductive SourceEntry where
  | file (content : ByteArray)
  | other

/-- The configured reference repository. -/
structure ReferenceRepo where
  root : String
  present : Bool
  isAbsolute : String → Bool
  resolve : String → String
  symlinked : String → Bool
  entry : String → Option SourceEntry

/-- `_resolve_reference_repo`. -/
def resolveReferenceRepo
    (repo : ReferenceRepo)
    (repository : String) : Except String String :=
  if repo.isAbsolute repository = true ∧
      repo.resolve repository ≠ repo.root then
    .error "repository is outside the configured reference repository"
  else
    .ok repo.root

/-- `Path(path).parts`, but for the root of an absolute path. -/
def pathParts (path : String) : List String :=
  (splitText '/' path).filter fun part => part ≠ "" ∧ part ≠ "."

/-- The parts that `read_source_code` refuses besides `sensitive_path`. -/
def refusedPart (part : String) : Bool :=
  decide (part = ".env") || startsWith part ".env." ||
    hasInfix part "credential" || hasInfix part "secret" ||
    decide (part = ".git")

/-- A line ends here; a carriage return and a line feed end it together. -/
def endsLine (char : Char) (rest : List Char) : Bool :=
  isLineBreak char ||
    (decide (char.toNat = 13) && decide (rest.head? ≠ some (Char.ofNat 10)))

/-- `text.splitlines(keepends=True)`, with the line read so far. -/
def keptLinesFrom (line : List Char) : List Char → List (List Char)
  | [] => if line = [] then [] else [line.reverse]
  | char :: rest =>
      if endsLine char rest = true then
        (char :: line).reverse :: keptLinesFrom [] rest
      else
        keptLinesFrom (char :: line) rest

/-- `text.splitlines(keepends=True)`. -/
def keptLines (text : String) : List (List Char) :=
  keptLinesFrom [] text.toList

/-- A window of a source file. -/
structure SourcePage where
  path : String
  content : String
  startLine : Int
  endLine : Int
  totalLines : Nat
  hasMore : Bool

/-- The reply of `read_source_code`: errors and windows. -/
inductive SourceReply where
  | refused (fields : List (String × Json))
  | page (page : SourcePage)

/-- The dictionary of a window. -/
def SourcePage.json (page : SourcePage) : Json :=
  .object
    [("path", .string page.path), ("content", .string page.content),
      ("start_line", .int page.startLine), ("end_line", .int page.endLine),
      ("total_lines", .int page.totalLines),
      ("has_more", .bool page.hasMore)]

/-- The dictionary of a reply. -/
def SourceReply.json : SourceReply → Json
  | .refused fields => .object fields
  | .page shown => shown.json

/-- `file_path.read_text(encoding="utf-8", errors="strict")`. -/
def readText (content : ByteArray) : Option String :=
  (String.fromUTF8? content).map fun text =>
    String.ofList (universalNewlines text.toList)

/-- The window that starts at a line. -/
def sourceWindow
    (window : Nat)
    (path text : String)
    (firstLine : Int) : SourcePage :=
  let allLines := keptLines text
  let totalLines := allLines.length
  if (totalLines : Int) < firstLine then
    { path := path
      content := ""
      startLine := firstLine
      endLine := totalLines
      totalLines := totalLines
      hasMore := false }
  else
    let index := (firstLine - 1).toNat
    let shown := Windows.front List.length window (allLines.drop index)
    { path := path
      content := String.ofList shown.flatten
      startLine := firstLine
      endLine := firstLine + shown.length - 1
      totalLines := totalLines
      hasMore := decide (index + shown.length < totalLines) }

/-- The path of a file of the repository. -/
def ReferenceRepo.filePath (repo : ReferenceRepo) (path : String) : String :=
  repo.root ++ "/" ++ forwardSlashes path

/-- An error with the path it is about. -/
def refusedPath (error path : String) : List (String × Json) :=
  [("error", .string error), ("path", .string path)]

/--
The file that `read_source_code` may show; the error is the whole reply.  A path
without symlinks that `validate_patch_path` accepts resolves into the repository.
-/
def sourceFile
    (tools : PatchTools)
    (repo : ReferenceRepo)
    (repository path : String) :
    Except (List (String × Json)) ByteArray :=
  match resolveReferenceRepo repo repository with
  | .error error =>
      .error
        [("error", .string error), ("repository", .string repository),
          ("path", .string path)]
  | .ok _ =>
      if sensitivePath tools path = true then
        .error (refusedPath "sensitive source path forbidden" path)
      else if ((pathParts path).map tools.lower).any refusedPart then
        .error (refusedPath "sensitive source path forbidden" path)
      else
        match validatePatchPath tools path with
        | .error error => .error [("error", .string error)]
        | .ok () =>
            if repo.symlinked (forwardSlashes path) = true then
              .error [("error", .string "symlink patch path forbidden")]
            else
              match repo.entry (forwardSlashes path) with
              | none =>
                  .error (refusedPath "file not found" (repo.filePath path))
              | some .other =>
                  .error
                    [("error",
                      .string "source must be a bounded regular file")]
              | some (.file content) =>
                  if 50000 < content.size then
                    .error
                      [("error",
                        .string "source must be a bounded regular file")]
                  else
                    .ok content

/--
`read_source_code`, before `safe_tool`, for any size of the window; the size of
`SOURCE_WINDOW_CHARS` is 3200.
-/
def readSourceCode
    (tools : PatchTools)
    (repo : ReferenceRepo)
    (window : Nat)
    (repository path : String)
    (startLine : Int) : Except String SourceReply :=
  match sourceFile tools repo repository path with
  | .error fields => .ok (.refused fields)
  | .ok content =>
      if startLine < 1 then
        .ok
          (.refused
            (refusedPath "start_line must be a positive integer" path))
      else
        match readText content with
        | none => .error "invalid start byte"
        | some text =>
            .ok
              (.page
                (sourceWindow window (repo.filePath path) text startLine))

/-- `read_source_code` with the limits of `safe_tool`, before redaction. -/
def readSourceTool
    (tools : PatchTools)
    (json : JsonTools)
    (repo : ReferenceRepo)
    (window : Nat)
    (repository path : String)
    (startLine : Int) : Except String SourceReply :=
  limitedTool json
    (keywordArguments
      [("repository", .string repository), ("path", .string path),
        ("start_line", .int startLine)])
    (fun reply => json.dumps reply.json) .refused
    (readSourceCode tools repo window repository path startLine)

/-- The text of a file that `read_source_code` may show. -/
def sourceText
    (tools : PatchTools)
    (repo : ReferenceRepo)
    (repository path : String) : Option String :=
  (sourceFile tools repo repository path).toOption.bind readText

/-- What a file is read as from a line on. -/
theorem readSourceCode_eq_page
    {tools : PatchTools}
    {repo : ReferenceRepo}
    {window : Nat}
    {repository path : String}
    {startLine : Int}
    {page : SourcePage} :
    readSourceCode tools repo window repository path startLine =
        .ok (.page page) ↔
      1 ≤ startLine ∧
        ∃ text,
          sourceText tools repo repository path = some text ∧
            page =
              sourceWindow window (repo.filePath path) text startLine := by
  unfold readSourceCode sourceText
  cases sourceFile tools repo repository path with
  | error fields =>
      simp [Except.toOption]
  | ok content =>
      by_cases early : startLine < 1
      · have late : ¬ 1 ≤ startLine := by omega
        simp [early, late]
      · have late : 1 ≤ startLine := by omega
        cases decoded : readText content with
        | none =>
            simp [early, late, decoded, Except.toOption]
        | some text =>
            simp [early, late, decoded, Except.toOption, eq_comm]

end IncidentPilot
