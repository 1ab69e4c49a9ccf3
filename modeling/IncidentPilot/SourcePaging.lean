import IncidentPilot.ReadonlyServer
import Mathlib.Data.List.Chain

/-!
# Paging through a source file

A caller that reads a file from its first line, and then from the line after the
last one it was shown while there are more, is shown the whole file.
-/

namespace IncidentPilot

/--
The pages that a caller reads from a line on with so many calls, when it has come
to a page after which there is no more.
-/
def pagesFrom (read : Int → Except String SourceReply) :
    Nat → Int → Option (List SourcePage)
  | 0, _ => none
  | calls + 1, startLine =>
      match read startLine with
      | .ok (.page page) =>
          if page.hasMore = true then
            (pagesFrom read calls (page.endLine + 1)).map (page :: ·)
          else
            some [page]
      | _ => none

/-- Pages that show the rest of a file, from a line on. -/
structure PagesShow
    (window : Nat)
    (lines rest : List (List Char))
    (startLine : Int)
    (pages : List SourcePage) : Prop where
  content : pages.flatMap (fun page => page.content.toList) = rest.flatten
  starts : ∀ page ∈ pages.head?, page.startLine = startLine
  adjacent :
    pages.IsChain fun page next => next.startLine = page.endLine + 1
  nonempty : ∀ page ∈ pages, page.content ≠ ""
  totalLines : ∀ page ∈ pages, page.totalLines = lines.length
  single :
    ∀ page ∈ pages,
      window < page.content.length →
      page.endLine = page.startLine ∧ page.content.toList ∈ lines

/-- The lines of a text make up the text. -/
theorem flatten_keptLinesFrom (line text : List Char) :
    (keptLinesFrom line text).flatten = line.reverse ++ text := by
  induction text generalizing line with
  | nil =>
      by_cases empty : line = []
      · simp [keptLinesFrom, empty]
      · simp [keptLinesFrom, empty]
  | cons char rest inductionHypothesis =>
      by_cases ends : endsLine char rest = true
      · simp [keptLinesFrom, ends, inductionHypothesis]
      · simp [keptLinesFrom, ends, inductionHypothesis]

/-- No line of a text is empty. -/
theorem keptLinesFrom_ne_nil
    {line text found : List Char}
    (member : found ∈ keptLinesFrom line text) :
    found ≠ [] := by
  induction text generalizing line with
  | nil =>
      by_cases empty : line = []
      · simp [keptLinesFrom, empty] at member
      · simp only [keptLinesFrom, empty, if_false,
          List.mem_singleton] at member
        simpa [member] using empty
  | cons char rest inductionHypothesis =>
      rw [keptLinesFrom] at member
      split at member
      · rcases List.mem_cons.mp member with rfl | inRest
        · simp
        · exact inductionHypothesis inRest
      · exact inductionHypothesis member

/-- A page shows some lines of a file, and leaves others. -/
structure PageShows
    (window : Nat)
    (lines : List (List Char))
    (index : Nat)
    (shown left : List (List Char))
    (page : SourcePage) : Prop where
  split : lines.drop index = shown ++ left
  some : shown ≠ []
  weight : (shown.map List.length).sum ≤ window ∨ shown.length = 1
  content : page.content = String.ofList shown.flatten
  startLine : page.startLine = index + 1
  endLine : page.endLine = index + shown.length
  totalLines : page.totalLines = lines.length
  hasMore :
    page.hasMore = decide (index + shown.length < lines.length)

/-- A window at a line of the file, and what is left after it. -/
theorem sourceWindow_shows
    {window : Nat}
    {path text : String}
    {index : Nat}
    (within : index < (keptLines text).length) :
    ∃ shown left,
      PageShows window (keptLines text) index shown left
        (sourceWindow window path text (index + 1)) := by
  have some : (keptLines text).drop index ≠ [] := by
    simpa using within
  obtain ⟨left, split⟩ :=
    @Windows.front_starts _ List.length window
      ((keptLines text).drop index)
  have late : ¬ ((keptLines text).length : Int) < index + 1 := by omega
  have same : ((index : Int) + 1 - 1).toNat = index := by omega
  refine
    ⟨_, left, split, Windows.front_ne_nil some,
      Windows.front_within some, ?_, ?_, ?_, ?_, ?_⟩
  all_goals simp only [sourceWindow, if_neg late, same]
  omega

namespace PageShows

variable {window index : Nat} {lines shown left : List (List Char)}
variable {page : SourcePage}

/-- The lines that are shown are lines of the file. -/
theorem among
    (shows : PageShows window lines index shown left page) :
    ∀ line ∈ shown, line ∈ lines := by
  intro line member
  have inRest : line ∈ lines.drop index := by
    rw [shows.split]
    exact List.mem_append_left _ member
  exact List.mem_of_mem_drop inRest

/-- A page of a file without empty lines is not empty. -/
theorem nonempty
    (shows : PageShows window lines index shown left page)
    (proper : ∀ line ∈ lines, line ≠ []) :
    page.content ≠ "" := by
  intro empty
  rw [shows.content] at empty
  have nothing : shown.flatten = [] := by
    simpa using congrArg String.toList empty
  obtain ⟨line, rest, isShown⟩ := List.exists_cons_of_ne_nil shows.some
  rw [isShown] at nothing
  have blank := (List.append_eq_nil_iff.mp nothing).1
  have member : line ∈ shown := isShown ▸ List.mem_cons_self
  exact proper line (shows.among line member) blank

/-- A page longer than the window is one line of the file. -/
theorem single
    (shows : PageShows window lines index shown left page)
    (heavy : window < page.content.length) :
    page.endLine = page.startLine ∧ page.content.toList ∈ lines := by
  rw [shows.content, String.length_ofList, List.length_flatten] at heavy
  have one : shown.length = 1 := by
    rcases shows.weight with light | one
    · omega
    · exact one
  obtain ⟨line, isLine⟩ := List.length_eq_one_iff.mp one
  constructor
  · rw [shows.endLine, shows.startLine, one]
    rfl
  · have member : line ∈ shown := isLine ▸ List.mem_cons_self
    rw [shows.content, isLine]
    simpa using shows.among line member

/-- What is left starts at the next line. -/
theorem onward
    (shows : PageShows window lines index shown left page) :
    lines.drop (index + shown.length) = left := by
  rw [← List.drop_drop, shows.split, List.drop_left]

/-- A page after which there is no more shows the rest of the file. -/
theorem last
    (shows : PageShows window lines index shown left page)
    (noMore : ¬ index + shown.length < lines.length) :
    left = [] := by
  rw [← shows.onward]
  exact List.drop_eq_nil_of_le (Nat.le_of_not_lt noMore)

end PageShows

/-- A caller that is shown a window at every line is shown the rest. -/
theorem pagesFrom_show
    {read : Int → Except String SourceReply}
    {window : Nat}
    {path text : String}
    (reads :
      ∀ line,
        1 ≤ line →
        read line = .ok (.page (sourceWindow window path text line)))
    {calls index : Nat}
    (within : index < (keptLines text).length)
    (enough : (keptLines text).length ≤ index + calls) :
    ∃ pages,
      pagesFrom read calls (index + 1) = some pages ∧
        PagesShow window (keptLines text) ((keptLines text).drop index)
          (index + 1) pages := by
  have proper : ∀ line ∈ keptLines text, line ≠ [] :=
    fun line => keptLinesFrom_ne_nil
  induction calls generalizing index with
  | zero =>
      omega
  | succ calls inductionHypothesis =>
      obtain ⟨shown, left, shows⟩ :=
        @sourceWindow_shows window path text index within
      have page := reads (index + 1) (by omega)
      generalize sourceWindow window path text (index + 1) = current
        at page shows
      by_cases more : index + shown.length < (keptLines text).length
      · have positive := List.length_pos_iff.mpr shows.some
        obtain ⟨pages, rest, showsRest⟩ :=
          inductionHypothesis more (by omega)
        rw [shows.onward] at showsRest
        have next : current.endLine + 1 = (index + shown.length : Nat) + 1 :=
          by rw [shows.endLine]; rfl
        refine ⟨current :: pages, ?_, ?_⟩
        · simp only [pagesFrom, page, shows.hasMore, more, decide_true,
            if_true, next, rest, Option.map_some]
        · constructor
          · simp [showsRest.content, shows.split, shows.content]
          · simpa using shows.startLine
          · refine List.isChain_cons.mpr ⟨?_, showsRest.adjacent⟩
            intro following isNext
            rw [next]
            exact showsRest.starts following isNext
          · exact
              List.forall_mem_cons.mpr
                ⟨shows.nonempty proper, showsRest.nonempty⟩
          · exact
              List.forall_mem_cons.mpr
                ⟨shows.totalLines, showsRest.totalLines⟩
          · exact
              List.forall_mem_cons.mpr ⟨shows.single, showsRest.single⟩
      · refine ⟨[current], ?_, ?_⟩
        · simp only [pagesFrom, page, shows.hasMore, more, decide_false,
            Bool.false_eq_true, if_false]
        · constructor
          · simp [shows.split, shows.content, shows.last more]
          · simpa using shows.startLine
          · exact .singleton _
          · simpa using shows.nonempty proper
          · simpa using shows.totalLines
          · simpa using shows.single

/-- The first page is what is read first. -/
theorem pagesFrom_head
    {read : Int → Except String SourceReply}
    {calls : Nat}
    {startLine : Int}
    {first : SourcePage}
    {pages : List SourcePage}
    (isFirst : read startLine = .ok (.page first))
    (ended : pagesFrom read calls startLine = some pages) :
    pages.head? = some first := by
  cases calls with
  | zero =>
      cases ended
  | succ calls =>
      simp only [pagesFrom, isFirst] at ended
      split at ended
      · obtain ⟨rest, -, rfl⟩ := Option.map_eq_some_iff.mp ended
        rfl
      · cases ended
        rfl

/-- More calls come to the same pages. -/
theorem pagesFrom_more
    {read : Int → Except String SourceReply}
    {calls : Nat}
    {startLine : Int}
    {pages : List SourcePage}
    (ended : pagesFrom read calls startLine = some pages)
    {others : Nat}
    (more : calls ≤ others) :
    pagesFrom read others startLine = some pages := by
  induction calls generalizing others startLine pages with
  | zero =>
      cases ended
  | succ calls inductionHypothesis =>
      obtain ⟨others, rfl⟩ := Nat.exists_eq_add_of_le' more
      rw [← Nat.add_assoc] at *
      rw [pagesFrom] at ended ⊢
      split at ended
      · rename_i page isPage
        split at ended
        · obtain ⟨rest, restEnded, rfl⟩ :=
            Option.map_eq_some_iff.mp ended
          rename_i hasMore
          rw [if_pos hasMore,
            inductionHypothesis restEnded (by omega), Option.map_some]
        · rename_i hasMore
          rw [if_neg hasMore]
          exact ended
      · cases ended

/-- A caller that is shown pages by a tool is shown those of what it wraps. -/
theorem pagesFrom_of_tool
    {tool read : Int → Except String SourceReply}
    (wraps :
      ∀ line page,
        tool line = .ok (.page page) → read line = .ok (.page page))
    {calls : Nat}
    {startLine : Int}
    {pages : List SourcePage}
    (ended : pagesFrom tool calls startLine = some pages) :
    pagesFrom read calls startLine = some pages := by
  induction calls generalizing startLine pages with
  | zero =>
      cases ended
  | succ calls inductionHypothesis =>
      rw [pagesFrom] at ended ⊢
      split at ended
      · rename_i page isPage
        rw [wraps startLine page isPage]
        dsimp only
        split at ended
        · obtain ⟨rest, restEnded, rfl⟩ :=
            Option.map_eq_some_iff.mp ended
          rename_i hasMore
          rw [if_pos hasMore, inductionHypothesis restEnded,
            Option.map_some]
        · rename_i hasMore
          rw [if_neg hasMore]
          exact ended
      · cases ended

/-- What the tool shows is what the function it wraps shows. -/
theorem readSourceCode_of_tool
    {tools : PatchTools}
    {json : JsonTools}
    {repo : ReferenceRepo}
    {window : Nat}
    {repository path : String}
    {line : Int}
    {page : SourcePage}
    (shown :
      readSourceTool tools json repo window repository path line =
        .ok (.page page)) :
    readSourceCode tools repo window repository path line =
      .ok (.page page) := by
  have foreign : ∀ fields, SourceReply.refused fields ≠ .page page := by
    intro fields same
    cases same
  exact ((limitedTool_eq_ok foreign).mp shown).2.1

/-- Only an empty text has no lines. -/
theorem keptLines_eq_nil
    {text : String}
    (none : keptLines text = []) :
    text = "" := by
  have whole := flatten_keptLinesFrom [] text.toList
  rw [show keptLinesFrom [] text.toList = [] from none] at whole
  exact String.toList_inj.mp (by simpa using whole.symm)

/-- The only page of an empty file. -/
theorem sourceWindow_empty
    {window : Nat}
    {path text : String}
    (none : keptLines text = []) :
    sourceWindow window path text 1 =
      { path := path
        content := ""
        startLine := 1
        endLine := 0
        totalLines := 0
        hasMore := false } := by
  simp [sourceWindow, none]

/--
A caller that goes on from line 1 while there is more comes to an end.  The pages
it has been shown are adjacent and make up the file; each is within the window
or one line.  Where the tool shows a caller all pages, they are these.
-/
theorem source_paging_lossless
    (tools : PatchTools)
    (json : JsonTools)
    (repo : ReferenceRepo)
    (window : Nat)
    (repository path : String)
    {first : SourcePage}
    (accepted :
      readSourceCode tools repo window repository path 1 =
        .ok (.page first)) :
    ∃ text pages,
      sourceText tools repo repository path = some text ∧
        (∃ calls,
          ∀ others,
            calls ≤ others →
            pagesFrom (readSourceCode tools repo window repository path)
                others 1 =
              some pages) ∧
        pages.head? = some first ∧
        ((∀ page ∈ pages, page.content ≠ "") ∨
          text = "" ∧ pages = [first]) ∧
        (pages.IsChain fun page next =>
          next.startLine = page.endLine + 1) ∧
        (∀ page ∈ pages, page.totalLines = (keptLines text).length) ∧
        String.join (pages.map SourcePage.content) = text ∧
        (∀ page ∈ pages,
          window < page.content.length →
          page.endLine = page.startLine ∧
            page.content.toList ∈ keptLines text) ∧
        ∀ calls toolPages,
          pagesFrom
              (readSourceTool tools json repo window repository path)
              calls 1 =
            some toolPages →
          toolPages = pages := by
  obtain ⟨-, text, isText, isFirst⟩ :=
    readSourceCode_eq_page.mp accepted
  have reads :
      ∀ line,
        1 ≤ line →
        readSourceCode tools repo window repository path line =
          .ok
            (.page (sourceWindow window (repo.filePath path) text line)) :=
    fun line late =>
      readSourceCode_eq_page.mpr ⟨late, text, isText, rfl⟩
  have onlyThese
      {calls : Nat}
      {pages : List SourcePage}
      (ended :
        pagesFrom (readSourceCode tools repo window repository path)
            calls 1 =
          some pages)
      (others : Nat)
      (toolPages : List SourcePage)
      (shown :
        pagesFrom (readSourceTool tools json repo window repository path)
            others 1 =
          some toolPages) :
      toolPages = pages := by
    have wrapped :=
      pagesFrom_of_tool (fun _ _ => readSourceCode_of_tool) shown
    have one := pagesFrom_more wrapped (Nat.le_max_left others calls)
    have same := pagesFrom_more ended (Nat.le_max_right others calls)
    exact Option.some.inj (one.symm.trans same)
  by_cases none : keptLines text = []
  · have empty := keptLines_eq_nil none
    have page := reads 1 (Int.le_refl 1)
    rw [← isFirst] at page
    rw [sourceWindow_empty none] at isFirst
    have ended :
        pagesFrom (readSourceCode tools repo window repository path)
            1 1 =
          some [first] := by
      simp only [pagesFrom, page, isFirst, Bool.false_eq_true, if_false]
    refine
      ⟨text, [first], isText, ⟨1, fun _ => pagesFrom_more ended⟩, rfl,
        .inr ⟨empty, rfl⟩, .singleton _, ?_, ?_, ?_, onlyThese ended⟩
    · simp [isFirst, none]
    · simp [isFirst, empty]
    · simp [isFirst]
  · have positive := List.length_pos_iff.mpr none
    obtain ⟨pages, ended, shows⟩ :=
      @pagesFrom_show _ window _ text reads _ 0 positive
        (Nat.le_add_left _ 0)
    refine
      ⟨text, pages, isText, ⟨_, fun _ => pagesFrom_more ended⟩, ?_,
        .inl shows.nonempty, shows.adjacent, shows.totalLines, ?_,
        shows.single, onlyThese ended⟩
    · exact pagesFrom_head accepted ended
    · apply String.toList_inj.mp
      rw [String.toList_join, List.flatMap_map, shows.content,
        List.drop_zero]
      exact flatten_keptLinesFrom [] text.toList

/-- A reader that accepts no text. -/
def acceptsNothing {Value : Type} (_ : String) : Option Value :=
  none

/-- No text is accepted. -/
theorem acceptsNothing_eq {Value : Type} (text : String) :
    acceptsNothing text = (none : Option Value) :=
  rfl

/-- Library tables for names in ASCII. -/
def asciiTools : PatchTools where
  jsonLoads := acceptsNothing
  lower text := String.ofList (text.toList.map Char.toLower)
  upper text := String.ofList (text.toList.map Char.toUpper)
  numstat := acceptsNothing
  gitApply files _ := .ok files
  jsonLoads_empty := acceptsNothing_eq ""
  numstat_empty := acceptsNothing_eq ""

/-- A repository with one file of two lines. -/
def twoLineRepo : ReferenceRepo where
  root := "/srv/orders_api"
  present := true
  isAbsolute path := startsWith path "/"
  resolve path := path
  symlinked _ := false
  entry path :=
    if path = "app.py" then some (.file "one
two
".toUTF8) else none

/-- The file of two lines is read in two pages when the window is small. -/
theorem source_paging_lossless_two_lines :
    ∃ text pages,
      sourceText asciiTools twoLineRepo "" "app.py" = some text ∧
        (∃ calls,
          ∀ others,
            calls ≤ others →
            pagesFrom (readSourceCode asciiTools twoLineRepo 4 "" "app.py")
                others 1 =
              some pages) ∧
        String.join (pages.map SourcePage.content) = text := by
  have accepted :
      readSourceCode asciiTools twoLineRepo 4 "" "app.py" 1 =
        .ok
          (.page
            (sourceWindow 4 (twoLineRepo.filePath "app.py") "one
two
"
              1)) :=
    readSourceCode_eq_page.mpr
      ⟨by decide, "one
two
", by decide +kernel, rfl⟩
  obtain ⟨text, pages, isText, ends, -, -, -, -, whole, -⟩ :=
    source_paging_lossless asciiTools sampleJsonTools twoLineRepo 4 ""
      "app.py" accepted
  exact ⟨text, pages, isText, ends, whole⟩

end IncidentPilot
