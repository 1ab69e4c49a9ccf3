import IncidentPilot.GitDiff
import IncidentPilot.Library.Delimited

/-!
# Commits listed by the readonly server

`inspect_git_history` runs `git log` with the format `%H|%s|%an|%ci` and splits
what it prints into lines and each line into fields.  A subject and the name of
an author are free text.
-/

namespace IncidentPilot

/-- A commit as `inspect_git_history` returns it. -/
structure CommitEntry where
  sha : String
  message : String
  author : String
  date : String
  deriving DecidableEq

/-- A character of a date that git prints for `%ci`. -/
def dateChar (char : Char) : Bool :=
  char.isDigit || ['-', '+', ':', ' '].contains char

/-- A commit of the history, with a single-line subject and author name. -/
structure LoggedCommit extends CommitEntry where
  hexSha : sha.toList.all shaDigit = true
  oneLineMessage : Char.ofNat 10 ∉ message.toList
  oneLineAuthor : Char.ofNat 10 ∉ author.toList
  isDate : date.toList.all dateChar = true

/-- What git prints of a commit. -/
def CommitEntry.record (commit : CommitEntry) : List Char :=
  commit.sha.toList ++ '|' ::
    (commit.message.toList ++ '|' ::
      (commit.author.toList ++ '|' :: commit.date.toList))

/-- What `git log` prints: the records, with a line feed between two of them. -/
def gitLog (commits : List LoggedCommit) : String :=
  String.ofList
    ([Char.ofNat 10].intercalate
      (commits.map fun commit => commit.toCommitEntry.record))

/-- Output of a process as `text=True` decodes it. -/
def textOutput (output : String) : String :=
  String.ofList (universalNewlines output.toList)

/-- A line of the output with four fields is a commit. -/
def parseCommit (line : String) : Option CommitEntry :=
  match Delimited.splitAtMost '|' 3 line.toList with
  | [sha, message, author, date] =>
      some
        { sha := String.ofList sha
          message := String.ofList message
          author := String.ofList author
          date := String.ofList date }
  | _ => none

/-- The commits of the output. -/
def parseHistory (out : String) : List CommitEntry :=
  (splitLines out).filterMap parseCommit

/-- The reply of `inspect_git_history`. -/
inductive HistoryReply where
  | refused (fields : List (String × Json))
  | history (repository : String) (commits : List CommitEntry)

/-- `max(1, min(int(limit), 50))`. -/
def historyLimit (limit : Int) : Nat :=
  (max 1 (min limit 50)).toNat

/--
`inspect_git_history`, before `safe_tool`.  The latest commits, so many of them,
are what git has in the directory, unless it fails.
-/
def inspectGitHistory
    (repo : ReferenceRepo)
    (latest : Nat → Except String (List LoggedCommit))
    (repository : String)
    (limit : Int) : HistoryReply :=
  match resolveReferenceRepo repo repository with
  | .error error =>
      .refused
        [("error", .string error), ("repository", .string repository)]
  | .ok repoPath =>
      if repo.present = false then
        .refused
          [("repository", .string repoPath), ("commits", .array []),
            ("source", .string "missing_repo")]
      else
        match latest (historyLimit limit) with
        | .error error =>
            .refused
              [("repository", .string repoPath), ("commits", .array []),
                ("error", .string error)]
        | .ok commits =>
            .history repoPath (parseHistory (textOutput (gitLog commits)))

/-- A character that ends a line of `splitlines`. -/
def breaksLine (char : Char) : Bool :=
  isLineBreak char || decide (char.toNat = 13)

/-- A free text that has neither the separator nor the end of a line. -/
def PlainField (field : String) : Prop :=
  ∀ char ∈ field.toList, char ≠ '|' ∧ breaksLine char = false

/-- A text without carriage returns is read as it is. -/
theorem universalNewlines_eq_self
    {text : List Char}
    (plain : ∀ char ∈ text, char.toNat ≠ 13) :
    universalNewlines text = text := by
  fun_induction universalNewlines text with
  | case1 =>
      rfl
  | case2 char isReturn =>
      exact absurd isReturn (plain char (by simp))
  | case3 char other =>
      rfl
  | case4 char next rest isReturn isFeed inductionHypothesis =>
      exact absurd isReturn (plain char (by simp))
  | case5 char next rest isReturn other inductionHypothesis =>
      exact absurd isReturn (plain char (by simp))
  | case6 char next rest other inductionHypothesis =>
      rw [inductionHypothesis fun found member =>
        plain found (List.mem_cons_of_mem char member)]

/-- Characters that end no line are read into the line. -/
theorem splitLinesFrom_append
    {record : List Char}
    (plain : ∀ char ∈ record, breaksLine char = false)
    (line rest : List Char) :
    splitLinesFrom false line (record ++ rest) =
      splitLinesFrom false (record.reverse ++ line) rest := by
  induction record generalizing line with
  | nil =>
      rfl
  | cons char record inductionHypothesis =>
      have first := plain char (by simp)
      simp only [breaksLine, Bool.or_eq_false_iff,
        decide_eq_false_iff_not] at first
      rw [List.cons_append, splitLinesFrom, if_neg first.2,
        if_neg (by simp), if_neg (by simp [first.1]),
        inductionHypothesis fun found member =>
          plain found (List.mem_cons_of_mem char member)]
      simp

/-- No line of a text has a character that ends a line. -/
theorem plain_of_mem_splitLinesFrom
    {afterReturn : Bool}
    {line text found : List Char}
    (plain : ∀ char ∈ line, breaksLine char = false)
    (member : found ∈ splitLinesFrom afterReturn line text) :
    ∀ char ∈ found, breaksLine char = false := by
  induction text generalizing afterReturn line with
  | nil =>
      by_cases empty : line = []
      · simp [splitLinesFrom, empty] at member
      · simp only [splitLinesFrom, empty, if_false,
          List.mem_singleton] at member
        intro char inFound
        exact plain char (by simpa [member] using inFound)
  | cons first rest inductionHypothesis =>
      have ended
          {found : List Char}
          (isLine : found = line.reverse) :
          ∀ char ∈ found, breaksLine char = false := by
        intro char inFound
        exact plain char (by simpa [isLine] using inFound)
      have nothing : ∀ char ∈ ([] : List Char), breaksLine char = false :=
        fun _ none => by cases none
      rw [splitLinesFrom] at member
      split at member
      · rcases List.mem_cons.mp member with isLine | inRest
        · exact ended isLine
        · exact inductionHypothesis nothing inRest
      · rename_i notReturn
        split at member
        · exact inductionHypothesis plain member
        · split at member
          · rcases List.mem_cons.mp member with isLine | inRest
            · exact ended isLine
            · exact inductionHypothesis nothing inRest
          · rename_i notBreak
            apply inductionHypothesis _ member
            intro char inLine
            rcases List.mem_cons.mp inLine with rfl | inRest
            · simp [breaksLine, notReturn, notBreak]
            · exact plain char inRest

/-- Records that end no line, with a line feed between two, are the lines. -/
theorem splitLinesFrom_records
    {records : List (List Char)}
    (some : ∀ record ∈ records, record ≠ [])
    (plain :
      ∀ record ∈ records, ∀ char ∈ record, breaksLine char = false) :
    splitLinesFrom false [] ([Char.ofNat 10].intercalate records) =
      records := by
  induction records with
  | nil =>
      rfl
  | cons record rest inductionHypothesis =>
      have others :=
        inductionHypothesis
          (fun found member => some found (List.mem_cons_of_mem _ member))
          (fun found member => plain found (List.mem_cons_of_mem _ member))
      have recordPlain := plain record (by simp)
      have recordSome : record.reverse ≠ [] := by
        simpa using some record (by simp)
      cases rest with
      | nil =>
          have alone := splitLinesFrom_append recordPlain [] []
          rw [List.append_nil, List.append_nil, splitLinesFrom,
            if_neg recordSome, List.reverse_reverse] at alone
          rw [List.intercalate_singleton]
          exact alone
      | cons next rest =>
          rw [List.intercalate_cons_cons, List.append_assoc,
            splitLinesFrom_append recordPlain, List.append_nil,
            List.singleton_append, splitLinesFrom]
          simp [isLineBreak, others]

/-- Characters from a space to `f`, as in ids and dates, are plain. -/
theorem plain_of_toNat
    {char : Char}
    (least : 32 ≤ char.toNat)
    (greatest : char.toNat ≤ 102) :
    char ≠ '|' ∧ breaksLine char = false := by
  constructor
  · rintro rfl
    exact absurd greatest (by decide)
  · have small : isLineBreak char = false := by
      simp only [isLineBreak, List.contains_eq_mem, List.mem_cons,
        List.not_mem_nil, or_false, decide_eq_false_iff_not]
      omega
    simp only [breaksLine, small, Bool.false_or, decide_eq_false_iff_not]
    omega

/-- An id is plain. -/
theorem LoggedCommit.plainSha (commit : LoggedCommit) :
    PlainField commit.sha := by
  intro char member
  have digit := List.all_eq_true.mp commit.hexSha char member
  simp only [shaDigit, Bool.or_eq_true, Bool.and_eq_true,
    decide_eq_true_eq] at digit
  rcases digit with (decimal | lower) | upper
  · have bounds := Char.isDigit_iff_toNat.mp decimal
    have first : '0'.toNat = 48 := rfl
    have last : '9'.toNat = 57 := rfl
    exact plain_of_toNat (by omega) (by omega)
  · have first : 'a'.toNat = 97 := rfl
    have last : 'f'.toNat = 102 := rfl
    exact plain_of_toNat (by omega) (by omega)
  · have first : 'A'.toNat = 65 := rfl
    have last : 'F'.toNat = 70 := rfl
    exact plain_of_toNat (by omega) (by omega)

/-- A date is plain. -/
theorem LoggedCommit.plainDate (commit : LoggedCommit) :
    PlainField commit.date := by
  intro char member
  have allowed := List.all_eq_true.mp commit.isDate char member
  simp only [dateChar, Bool.or_eq_true, List.contains_eq_mem,
    List.mem_cons, List.not_mem_nil, or_false, decide_eq_true_eq] at allowed
  rcases allowed with digit | rfl | rfl | rfl | rfl
  · have bounds := Char.isDigit_iff_toNat.mp digit
    have first : '0'.toNat = 48 := rfl
    have last : '9'.toNat = 57 := rfl
    exact plain_of_toNat (by omega) (by omega)
  all_goals exact plain_of_toNat (by decide) (by decide)

/-- A plain field has no separator. -/
theorem PlainField.unseparated
    {field : String}
    (plain : PlainField field) :
    '|' ∉ field.toList :=
  fun member => (plain '|' member).1 rfl

/-- The record of plain fields is parsed back. -/
theorem parseCommit_record
    {commit : CommitEntry}
    (sha : '|' ∉ commit.sha.toList)
    (message : '|' ∉ commit.message.toList)
    (author : '|' ∉ commit.author.toList) :
    parseCommit (String.ofList commit.record) = some commit := by
  unfold parseCommit CommitEntry.record
  rw [String.toList_ofList, Delimited.splitAtMost_append sha,
    Delimited.splitAtMost_append message,
    Delimited.splitAtMost_append author, Delimited.splitAtMost]
  simp

/-- A commit is parsed from its record, with three separators. -/
theorem eq_record_of_parseCommit
    {line : String}
    {commit : CommitEntry}
    (parsed : parseCommit line = some commit) :
    line.toList = commit.record ∧
      '|' ∉ commit.message.toList ∧
      '|' ∉ commit.author.toList := by
  unfold parseCommit at parsed
  split at parsed
  · rename_i sha message author date fields
    have whole :=
      Delimited.intercalate_splitAtMost '|' 3 line.toList
    have separate :
        ∀ field ∈ [sha, message, author], '|' ∉ field := by
      intro field member
      apply
        @Delimited.not_mem_of_mem_dropLast _ _ _ 3 line.toList field
      rw [fields]
      exact member
    cases parsed
    simp only [String.toList_ofList]
    refine
      ⟨?_, separate message (by simp), separate author (by simp)⟩
    rw [fields] at whole
    rw [← whole]
    simp [CommitEntry.record, List.intercalate_cons_cons]
  · cases parsed

/-- The record of a commit with a plain subject and author ends no line. -/
theorem LoggedCommit.plainRecord
    (commit : LoggedCommit)
    (message : PlainField commit.message)
    (author : PlainField commit.author) :
    ∀ char ∈ commit.toCommitEntry.record, breaksLine char = false := by
  have separator : breaksLine '|' = false := by
    decide
  intro char member
  simp only [CommitEntry.record, List.mem_append, List.mem_cons] at member
  rcases member with inSha | rfl | inMessage | rfl | inAuthor | rfl | inDate
  · exact (commit.plainSha char inSha).2
  · exact separator
  · exact (message char inMessage).2
  · exact separator
  · exact (author char inAuthor).2
  · exact separator
  · exact (commit.plainDate char inDate).2

/-- The lines of the output are the records if all of these end no line. -/
theorem splitLines_gitLog
    {commits : List LoggedCommit}
    (plain :
      ∀ commit ∈ commits,
        PlainField commit.message ∧ PlainField commit.author) :
    splitLines (textOutput (gitLog commits)) =
      commits.map fun commit =>
        String.ofList commit.toCommitEntry.record := by
  have unbroken :
      ∀ record ∈ commits.map fun commit => commit.toCommitEntry.record,
        ∀ char ∈ record, breaksLine char = false := by
    intro record member
    obtain ⟨commit, among, rfl⟩ := List.mem_map.mp member
    obtain ⟨message, author⟩ := plain commit among
    exact commit.plainRecord message author
  have noReturn :
      ∀ char ∈ [Char.ofNat 10].intercalate
          (commits.map fun commit => commit.toCommitEntry.record),
        char.toNat ≠ 13 := by
    intro char member
    rcases Delimited.mem_intercalate member with rfl | inner
    · decide
    · obtain ⟨record, among, inRecord⟩ := inner
      have other := unbroken record among char inRecord
      simp only [breaksLine, Bool.or_eq_false_iff,
        decide_eq_false_iff_not] at other
      exact other.2
  have some :
      ∀ record ∈ commits.map fun commit => commit.toCommitEntry.record,
        record ≠ [] := by
    intro record member
    obtain ⟨commit, -, rfl⟩ := List.mem_map.mp member
    simp [CommitEntry.record]
  unfold splitLines textOutput gitLog
  rw [String.toList_ofList, String.toList_ofList,
    universalNewlines_eq_self noReturn,
    splitLinesFrom_records some unbroken, List.map_map]
  rfl

/-- A commit that is parsed back has a plain subject and a plain author. -/
theorem plain_of_decoded
    {commits : List LoggedCommit}
    (decoded :
      parseHistory (textOutput (gitLog commits)) =
        commits.map LoggedCommit.toCommitEntry) :
    ∀ commit ∈ commits,
      PlainField commit.message ∧ PlainField commit.author := by
  intro commit member
  have parsed :
      commit.toCommitEntry ∈
        parseHistory (textOutput (gitLog commits)) := by
    rw [decoded]
    exact List.mem_map_of_mem member
  obtain ⟨line, isLine, fromLine⟩ := List.mem_filterMap.mp parsed
  obtain ⟨text, isText, rfl⟩ := List.mem_map.mp isLine
  obtain ⟨isRecord, message, author⟩ :=
    eq_record_of_parseCommit fromLine
  rw [String.toList_ofList] at isRecord
  have unbroken :
      ∀ char ∈ commit.toCommitEntry.record,
        breaksLine char = false := by
    rw [← isRecord]
    exact
      plain_of_mem_splitLinesFrom (fun _ none => by cases none) isText
  constructor
  · intro char inMessage
    refine ⟨fun same => message (same ▸ inMessage), unbroken char ?_⟩
    simp [CommitEntry.record, inMessage]
  · intro char inAuthor
    refine ⟨fun same => author (same ▸ inAuthor), unbroken char ?_⟩
    simp [CommitEntry.record, inAuthor]

/-- Commits with plain subjects and authors are parsed back. -/
theorem decoded_of_plain
    {commits : List LoggedCommit}
    (plain :
      ∀ commit ∈ commits,
        PlainField commit.message ∧ PlainField commit.author) :
    parseHistory (textOutput (gitLog commits)) =
      commits.map LoggedCommit.toCommitEntry := by
  unfold parseHistory
  rw [splitLines_gitLog plain, List.filterMap_map,
    ← List.filterMap_eq_map]
  apply List.filterMap_congr
  intro commit member
  obtain ⟨message, author⟩ := plain commit member
  exact
    parseCommit_record commit.plainSha.unseparated message.unseparated
      author.unseparated

/-- The tool replies with the latest commits exactly if they are plain. -/
theorem inspectGitHistory_eq_history_iff
    {repo : ReferenceRepo}
    {latest : Nat → Except String (List LoggedCommit)}
    {repository root : String}
    {limit : Int}
    {commits : List LoggedCommit}
    (resolved : resolveReferenceRepo repo repository = .ok root)
    (present : repo.present = true)
    (found : latest (historyLimit limit) = .ok commits) :
    inspectGitHistory repo latest repository limit =
        .history root (commits.map LoggedCommit.toCommitEntry) ↔
      ∀ commit ∈ commits,
        PlainField commit.message ∧ PlainField commit.author := by
  have reply :
      inspectGitHistory repo latest repository limit =
        .history root (parseHistory (textOutput (gitLog commits))) := by
    simp [inspectGitHistory, resolved, present, found]
  rw [reply, HistoryReply.history.injEq]
  constructor
  · rintro ⟨-, decoded⟩
    exact plain_of_decoded decoded
  · intro plain
    exact ⟨rfl, decoded_of_plain plain⟩

/--
The output of `git log` is parsed back exactly if every subject and every name
of an author is plain.
-/
theorem history_decodes_iff (commits : List LoggedCommit) :
    parseHistory (textOutput (gitLog commits)) =
        commits.map LoggedCommit.toCommitEntry ↔
      ∀ commit ∈ commits,
        PlainField commit.message ∧ PlainField commit.author :=
  ⟨plain_of_decoded, decoded_of_plain⟩

/-- A commit whose subject has a separator. -/
def separatedCommit : LoggedCommit where
  sha := "0123abc"
  message := "a|b"
  author := "dev"
  date := "2024-01-01 00:00:00 +0000"
  hexSha := by decide
  oneLineMessage := by decide
  oneLineAuthor := by decide
  isDate := by decide

/-- The rest of a subject after a separator is taken for the author. -/
theorem separated_commit_altered :
    parseHistory (textOutput (gitLog [separatedCommit])) ≠
      [separatedCommit].map LoggedCommit.toCommitEntry := by
  decide +kernel

end IncidentPilot
