import IncidentPilot.Library.Json
import Mathlib.Data.List.Dedup
import Mathlib.Data.List.Infix
import Mathlib.Tactic.ByContra

/-!
# Patches on a workspace

The static part of `sandbox/manager.py`: which paths a patch may name, how its
paths are read, and how it is applied to the files of a workspace.  Git and the
parts of Python's library that are tables (`json.loads` and the case mappings)
are parameters.  A workspace holds no symlinks, because the copy leaves them out
and other file modes than 100644 are refused.
-/

namespace IncidentPilot

/-- The contents of files are compared by their bytes. -/
instance contentDecidableEq : DecidableEq ByteArray :=
  ByteArray.instDecidableEq

/-- The regular files of a directory tree, by their relative path. -/
abbrev Files := List (String × ByteArray)

namespace Files

/-- The content of a file. -/
def read (files : Files) (path : String) : Option ByteArray :=
  files.lookup path

/-- A file is given a new content. -/
def write (files : Files) (path : String) (content : ByteArray) : Files :=
  (path, content) :: files.filter fun file => file.1 ≠ path

/-- The paths at which two trees differ. -/
def changed (before after : Files) : List String :=
  ((before ++ after).map Prod.fst).filter fun path =>
    before.read path ≠ after.read path

end Files

/-- One record of `git apply --numstat`; `none` is its `-` for binary files. -/
structure Numstat where
  added : Option Nat
  removed : Option Nat
  path : String
  deriving Repr, DecidableEq

/-- How `git apply` fails. -/
structure GitFailure where
  exitStatus : Nat
  stderr : String
  deriving Repr, DecidableEq

/--
The programs and library tables that patches are read and applied with.  An
empty text is neither a JSON document nor a patch.
-/
structure PatchTools where
  jsonLoads : String → Option Json
  lower : String → String
  upper : String → String
  numstat : String → Option (List Numstat)
  gitApply : Files → String → Except GitFailure Files
  jsonLoads_empty : jsonLoads "" = none
  numstat_empty : numstat "" = none

/-- `text.startswith(pattern)`. -/
def startsWith (text pattern : String) : Bool :=
  pattern.toList.isPrefixOf text.toList

/-- `text.endswith(pattern)`. -/
def endsWith (text pattern : String) : Bool :=
  pattern.toList.isSuffixOf text.toList

/-- `pattern in text`. -/
def hasInfix (text pattern : String) : Bool :=
  decide (pattern.toList <:+: text.toList)

/-- `text.split(separator)` for a separator of one character. -/
def splitText (separator : Char) (text : String) : List String :=
  (text.toList.splitOn separator).map String.ofList

/-- `raw_path.replace("\\\\", "/")`. -/
def forwardSlashes (path : String) : String :=
  String.ofList
    (path.toList.map fun char =>
      if char = Char.ofNat 92 then '/' else char)

/-- `FORBIDDEN_PATCH_PARTS` and the directories `sensitive_path` adds. -/
def forbiddenPatchParts : List String :=
  [".git", ".env", "credentials", "credential", "secrets", "secret",
    "docker.sock", "conftest.py", ".gitattributes", ".ssh", ".aws",
    ".azure", ".config", ".github", ".venv", "venv", "node_modules"]

/-- One part of a path that `sensitive_path` refuses. -/
def sensitivePart (part : String) : Bool :=
  forbiddenPatchParts.contains part ||
    startsWith part ".env" ||
    hasInfix part "credential" ||
    hasInfix part "secret" ||
    hasInfix part "token" ||
    [".pem", ".key", ".p12", ".pfx"].any (endsWith part) ||
    ["id_rsa", "id_ed25519", "config.local", "private", ".netrc",
      ".npmrc", ".pypirc"].contains part

/-- `sensitive_path`. -/
def sensitivePath (tools : PatchTools) (rawPath : String) : Bool :=
  (splitText '/' (tools.lower (forwardSlashes rawPath))).any
    sensitivePart

/-- The Windows device names `validate_patch_path` refuses. -/
def deviceNames : List String :=
  ["CON", "PRN", "AUX", "NUL", "CLOCK$", "COM1", "COM2", "COM3", "COM4",
    "COM5", "COM6", "COM7", "COM8", "COM9", "LPT1", "LPT2", "LPT3",
    "LPT4", "LPT5", "LPT6", "LPT7", "LPT8", "LPT9"]

/-- A path that leaves the repository or that Git and Windows read otherwise. -/
def unsafePath (normalized : String) : Bool :=
  normalized.isEmpty ||
    startsWith normalized "/" ||
    startsWith normalized "~" ||
    normalized.toList.contains ':' ||
    ((splitText '/' normalized).any fun part =>
      part = "" || part = "." || part = "..") ||
    (normalized.toList.any fun char => char.toNat < 32) ||
    normalized.toList.contains (Char.ofNat 34)

/-- Why Windows reads a part of a path otherwise. -/
def windowsPart (tools : PatchTools) (part : String) : Option String :=
  if part.toList.getLast?.any (fun char => char = ' ' || char = '.') then
    some "unsafe Windows path alias"
  else if deviceNames.contains
      (tools.upper ((splitText '.' part).headD "")) then
    some "unsafe Windows device path"
  else
    none

/-- `validate_patch_path` in a tree without symlinks, part by part. -/
def validatePatchPath
    (tools : PatchTools)
    (rawPath : String) : Except String Unit :=
  let normalized := forwardSlashes rawPath
  if unsafePath normalized = true then
    .error ("unsafe patch path: " ++ rawPath)
  else if sensitivePath tools normalized = true then
    .error ("forbidden patch path: " ++ rawPath)
  else
    match (splitText '/' normalized).findSome? (windowsPart tools) with
    | some message => .error message
    | none => .ok ()

/-- An edit of a `simple_replace` patch. -/
structure PatchEdit where
  path : String
  find : String
  replace : String
  deriving Repr, DecidableEq

/-- The edit an item of `edits` stands for. -/
def editOf (item : Json) : Option PatchEdit :=
  match item.get? "path", item.get? "find", item.get? "replace" with
  | some (.string path), some (.string find), some (.string replace) =>
      some ⟨path, find, replace⟩
  | _, _, _ => none

/-- The keys of an edit are these three, and `find` is not empty. -/
def wellFormedEdit (item : Json) (edit : PatchEdit) : Bool :=
  match item with
  | .object fields => decide (fields.length = 3) && edit.find ≠ ""
  | _ => false

/-- The path one edit declares. -/
def editPath (tools : PatchTools) (item : Json) : Except String String :=
  match editOf item with
  | none => .error "invalid simple patch edit"
  | some edit =>
      if wellFormedEdit item edit = true then do
        validatePatchPath tools edit.path
        .ok edit.path
      else
        .error "invalid simple patch edit"

/-- The document a `simple_replace` patch is. -/
def simpleReplace (tools : PatchTools) (diff : String) : Option Json :=
  match tools.jsonLoads diff with
  | none => none
  | some data =>
      match data.get? "type" with
      | some (.string kind) =>
          if kind = "simple_replace" then some data else none
      | _ => none

/-- The paths a `simple_replace` patch declares, in order. -/
def editPaths
    (tools : PatchTools)
    (data : Json) : Except String (List String) :=
  match data.get? "edits" with
  | some (.array (item :: rest)) =>
      (item :: rest).mapM (editPath tools)
  | _ => .error "patch must contain at least one edit"

/-- A line break of `str.splitlines`, other than a carriage return. -/
def isLineBreak (char : Char) : Bool :=
  [10, 11, 12, 28, 29, 30, 133, 8232, 8233].contains char.toNat

/--
`text.splitlines()` on characters, with the line read so far.  A line feed that
follows a carriage return belongs to the same line break.
-/
def splitLinesFrom
    (afterReturn : Bool)
    (line : List Char) : List Char → List (List Char)
  | [] => if line = [] then [] else [line.reverse]
  | char :: rest =>
      if char.toNat = 13 then
        line.reverse :: splitLinesFrom true [] rest
      else if char.toNat = 10 ∧ afterReturn = true then
        splitLinesFrom false line rest
      else if isLineBreak char = true then
        line.reverse :: splitLinesFrom false [] rest
      else
        splitLinesFrom false (char :: line) rest

/-- `patch_diff.splitlines()`. -/
def splitLines (text : String) : List String :=
  (splitLinesFrom false [] text.toList).map String.ofList

/-- `char.isspace()`. -/
def isSpace (char : Char) : Bool :=
  decide (9 ≤ char.toNat ∧ char.toNat ≤ 13) ||
    decide (28 ≤ char.toNat ∧ char.toNat ≤ 32) ||
    decide (8192 ≤ char.toNat ∧ char.toNat ≤ 8202) ||
    [133, 160, 5760, 8232, 8233, 8239, 8287, 12288].contains char.toNat

/-- `line.split()`. -/
def words (line : String) : List String :=
  ((line.toList.splitOnP isSpace).map String.ofList).filter fun word =>
    word ≠ ""

/-- The complaint of `patch_paths` about one line of a unified diff. -/
def metadataError (line : String) : Option String :=
  if ["rename ", "copy ", "similarity ", "dissimilarity ", "old mode ",
      "new mode ", "GIT binary patch", "Binary files "].any
      (startsWith line) then
    some "unsupported patch metadata"
  else if (startsWith line "new file mode " ||
        startsWith line "deleted file mode ") &&
      !endsWith line "100644" then
    some "unsupported file mode"
  else if startsWith line "index " && 2 < (words line).length &&
      decide ((words line).getLast? ≠ some "100644") then
    some "unsupported index mode"
  else
    none

/-- One record of the numstat output is checked. -/
def numstatPath
    (tools : PatchTools)
    (record : Numstat) : Except String String :=
  if record.added = none ∨ record.removed = none then
    .error "unsupported binary patch"
  else do
    validatePatchPath tools record.path
    .ok record.path

/-- `patch_paths`: the set of paths a patch declares. -/
def patchPaths
    (tools : PatchTools)
    (diff : String) : Except String (List String) :=
  if 1000000 < diff.utf8ByteSize ∨ diff.toList.contains (Char.ofNat 0) then
    .error "invalid or oversized patch"
  else
    match simpleReplace tools diff with
    | some data => do
        let paths ← editPaths tools data
        .ok paths.dedup
    | none =>
        match (splitLines diff).findSome? metadataError with
        | some message => .error message
        | none =>
            match tools.numstat diff with
            | none => .error "invalid or empty unified diff"
            | some [] => .error "invalid or empty unified diff"
            | some records => do
                let paths ← records.mapM (numstatPath tools)
                .ok paths.dedup

/-- Universal newlines, with which `read_text` reads. -/
def universalNewlines : List Char → List Char
  | [] => []
  | [char] => if char.toNat = 13 then [Char.ofNat 10] else [char]
  | char :: next :: rest =>
      if char.toNat = 13 then
        if next.toNat = 10 then
          Char.ofNat 10 :: universalNewlines rest
        else
          Char.ofNat 10 :: universalNewlines (next :: rest)
      else
        char :: universalNewlines (next :: rest)

/-- `text.replace(find, replace, 1)`, or `none` when `find` is not in `text`. -/
def replaceFirst
    (find replace : List Char) : List Char → Option (List Char)
  | [] => if find = [] then some replace else none
  | char :: rest =>
      if find.isPrefixOf (char :: rest) then
        some (replace ++ (char :: rest).drop find.length)
      else
        (replaceFirst find replace rest).map (char :: ·)

/-- One edit is made; `read_text` decodes UTF-8 and so must the file. -/
def applyEdit
    (tools : PatchTools)
    (files : Files)
    (item : Json) : Except String Files :=
  match editOf item with
  | none => .error "invalid simple patch edit"
  | some edit => do
      validatePatchPath tools edit.path
      let target := forwardSlashes edit.path
      match files.read target with
      | none => .error ("No such file or directory: " ++ target)
      | some content =>
          match String.fromUTF8? content with
          | none => .error "invalid start byte"
          | some text =>
              match
                replaceFirst edit.find.toList edit.replace.toList
                  (universalNewlines text.toList) with
              | none =>
                  .error ("find string not present in " ++ edit.path)
              | some text =>
                  .ok (files.write target (String.ofList text).toUTF8)

/-- The edits in turn; what earlier edits wrote stays when one fails. -/
def applyEdits
    (tools : PatchTools) : Files → List Json → Files × Except String Unit
  | files, [] => (files, .ok ())
  | files, item :: rest =>
      match applyEdit tools files item with
      | .error message => (files, .error message)
      | .ok next => applyEdits tools next rest

/-- `patch_diff.lstrip().startswith` of an opening brace. -/
def looksLikeJson (diff : String) : Bool :=
  (diff.toList.dropWhile isSpace).head? = some (Char.ofNat 123)

/-- The text of the `CalledProcessError` of the check. -/
def GitFailure.message (failure : GitFailure) : String :=
  "Command '['git', '-c', 'core.autocrlf=false', 'apply', '--check', " ++
    "'-']' returned non-zero exit status " ++
    toString failure.exitStatus ++ "."

/-- The changes a patch makes, before they are compared with its paths. -/
def patchedFiles
    (tools : PatchTools)
    (files : Files)
    (diff : String) : Files × Except String Unit :=
  if looksLikeJson diff = true then
    match (tools.jsonLoads diff).bind fun data => data.get? "edits" with
    | some (.array items) => applyEdits tools files items
    | _ => (files, .error "Expecting value")
  else
    match tools.gitApply files diff with
    | .error failure => (files, .error failure.message)
    | .ok after => (after, .ok ())

/-- The paths that changed are exactly the declared ones. -/
def ChangesExactly
    (paths : List String)
    (before after : Files) : Prop :=
  (∀ path ∈ before.changed after, path ∈ paths) ∧
    ∀ path ∈ paths, path ∈ before.changed after

instance
    (paths : List String)
    (before after : Files) :
    Decidable (ChangesExactly paths before after) :=
  inferInstanceAs (Decidable (_ ∧ _))

/-- `SandboxManager.apply_patch` on the files of the workspace. -/
def applyPatch
    (tools : PatchTools)
    (files : Files)
    (diff : String) : Files × Except String Unit :=
  match patchPaths tools diff with
  | .error message => (files, .error message)
  | .ok paths =>
      match patchedFiles tools files diff with
      | (after, .error message) => (after, .error message)
      | (after, .ok ()) =>
          if ChangesExactly paths files after then
            (after, .ok ())
          else
            (after,
              .error "actual patch changes differ from declared paths")

/-- A patch that is applied changes exactly the paths it declares. -/
theorem applyPatch_ok
    {tools : PatchTools}
    {before after : Files}
    {diff : String}
    (applied : applyPatch tools before diff = (after, .ok ())) :
    ∃ paths,
      patchPaths tools diff = .ok paths ∧
        patchedFiles tools before diff = (after, .ok ()) ∧
        ChangesExactly paths before after := by
  unfold applyPatch at applied
  split at applied
  · cases applied
  · rename_i paths declared
    split at applied
    · cases applied
    · rename_i result patched
      split at applied
      · rename_i exactly
        cases applied
        exact ⟨paths, declared, patched, exactly⟩
      · cases applied

end IncidentPilot
