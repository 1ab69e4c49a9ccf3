import IncidentPilot.LogReading

/-!
# Malformed lines of the structured log

Which lines `read_logs` should return, whatever else is in the file, and exactly
when it does: a line that is JSON but no object, or an object whose status is no
number, ends the tool with an exception where the search or the count meets it.
-/

namespace IncidentPilot

/-- The value of a line that is JSON. -/
def Loaded.value? : Loaded → Option LogValue
  | .value found => some found
  | _ => none

/-- The JSON values among the lines that are read. -/
def jsonValues (tools : LogTools) (content : List UInt8) : List LogValue :=
  (logLines content).filterMap fun line => (tools.jsonLoads line).value?

namespace LogValue

/-- An object that has an error or a usable status. -/
def usable (tools : LogTools) (value : LogValue) : Bool :=
  value.isObject &&
    (value.flag "error" || value.flag "error_type" ||
      (value.status tools).isOk)

/-- A status of at least 500. -/
def failedStatus (tools : LogTools) (value : LogValue) : Bool :=
  (value.status tools).toOption.any fun status => decide (500 ≤ status)

/-- An error, or a status of at least 500. -/
def carriesError (tools : LogTools) (value : LogValue) : Bool :=
  value.flag "error" || value.flag "error_type" || value.failedStatus tools

end LogValue

/--
The last well-formed objects, from the latest fault on if there is one, and how
many of them are errors.
-/
structure ShowsLatest
    (tools : LogTools)
    (values : List LogValue)
    (limit : Nat)
    (window : LogWindow) : Prop where
  events :
    window.events =
      (Latest.sinceLatest LogValue.isFault
          (values.filter (LogValue.usable tools))).rtake
        limit
  count : window.count = window.events.length
  errorCount :
    window.errorCount =
      window.events.countP (LogValue.carriesError tools)

/-- A value with no fault after it, and the values after it. -/
def NoFaultSince
    (values : List LogValue)
    (value : LogValue)
    (after : List LogValue) : Prop :=
  (∃ before, values = before ++ value :: after) ∧
    ∀ later ∈ after, later.isFault = false

/--
The JSON values from the latest fault on are objects, and the last of them are
usable.
-/
structure ReadableValues
    (tools : LogTools)
    (values : List LogValue)
    (limit : Nat) : Prop where
  objects :
    ∀ value after,
      NoFaultSince values value after → value.isObject = true
  usable :
    ∀ value after,
      NoFaultSince values value after →
      after.length < limit →
      value.usable tools = true

/-- What loading lines returns, and when it does. -/
theorem loadLines_eq_ok
    {tools : LogTools}
    {lines : List String}
    {values : List LogValue} :
    loadLines tools lines = .ok values ↔
      (∀ line ∈ lines, ∀ error, tools.jsonLoads line ≠ .raised error) ∧
        values =
          lines.filterMap fun line => (tools.jsonLoads line).value? := by
  induction lines generalizing values with
  | nil =>
      simp [loadLines, eq_comm]
  | cons line rest inductionHypothesis =>
      rw [loadLines]
      cases loaded : tools.jsonLoads line with
      | raised error =>
          simp [loaded]
      | decodeError =>
          simp [loaded, inductionHypothesis, Loaded.value?]
      | value value =>
          cases others : loadLines tools rest with
          | error error =>
              have fails :
                  ¬ ∀ line ∈ rest,
                    ∀ error, tools.jsonLoads line ≠ .raised error := by
                intro noneRaises
                have returned :=
                  inductionHypothesis.mpr ⟨noneRaises, rfl⟩
                rw [others] at returned
                cases returned
              simp [loaded, fails]
          | ok found =>
              obtain ⟨noneRaises, rfl⟩ := inductionHypothesis.mp others
              simp only [Except.ok.injEq, List.mem_cons,
                forall_eq_or_imp, loaded, List.filterMap_cons,
                Loaded.value?]
              constructor
              · rintro rfl
                exact ⟨⟨by simp, noneRaises⟩, rfl⟩
              · rintro ⟨-, rfl⟩
                rfl

/-- The search ends at a value that is no object, with no fault after it. -/
theorem searchFault_error
    {items : List LogValue}
    {error : String}
    (raised : searchFault items = .error error) :
    ∃ newer value older,
      items = newer ++ value :: older ∧
        value.isObject = false ∧
        ∀ other ∈ newer, other.isFault = false := by
  induction items with
  | nil =>
      cases raised
  | cons value older inductionHypothesis =>
      rw [searchFault] at raised
      split at raised
      · rename_i noObject
        exact ⟨[], value, older, rfl, noObject, by simp⟩
      · split at raised
        · cases raised
        · rename_i noFault
          obtain ⟨newer, found, others, rfl, noObject, noFaults⟩ :=
            inductionHypothesis raised
          refine ⟨value :: newer, found, others, rfl, noObject, ?_⟩
          intro other member
          rcases List.mem_cons.mp member with rfl | inNewer
          · simpa using noFault
          · exact noFaults other inNewer

/-- The search finds no fault among objects. -/
theorem searchFault_none
    {items : List LogValue}
    (searched : searchFault items = .ok none) :
    ∀ value ∈ items, value.isObject = true ∧ value.isFault = false := by
  induction items with
  | nil =>
      simp
  | cons value older inductionHypothesis =>
      rw [searchFault] at searched
      split at searched
      · cases searched
      · rename_i isObject
        split at searched
        · cases searched
        · rename_i noFault
          intro other member
          rcases List.mem_cons.mp member with rfl | inOlder
          · exact ⟨by simpa using isObject, by simpa using noFault⟩
          · exact inductionHypothesis searched other inOlder

/-- The search ends at the latest fault, and meets objects only. -/
theorem searchFault_some
    {items : List LogValue}
    {index : Nat}
    (searched : searchFault items = .ok (some index)) :
    ∃ newer value older,
      items = newer ++ value :: older ∧
        index = older.length ∧
        value.isFault = true ∧
        value.isObject = true ∧
        ∀ other ∈ newer,
          other.isObject = true ∧ other.isFault = false := by
  induction items with
  | nil =>
      cases searched
  | cons value older inductionHypothesis =>
      rw [searchFault] at searched
      split at searched
      · cases searched
      · rename_i isObject
        split at searched
        · rename_i isFault
          cases searched
          exact
            ⟨[], value, older, rfl, rfl, isFault, by simpa using isObject,
              by simp⟩
        · rename_i noFault
          obtain ⟨newer, found, others, rfl, rfl, isFault, object, rest⟩ :=
            inductionHypothesis searched
          refine
            ⟨value :: newer, found, others, rfl, rfl, isFault, object, ?_⟩
          intro other member
          rcases List.mem_cons.mp member with rfl | inNewer
          · exact ⟨by simpa using isObject, by simpa using noFault⟩
          · exact rest other inNewer

/-- What is selected, and of which values. -/
theorem selectEvents_ok
    {limit : Nat}
    {lines selected : List LogValue}
    (chosen : selectEvents limit lines = .ok selected) :
    selected = (Latest.sinceLatest LogValue.isFault lines).rtake limit ∧
      ∀ value after,
        NoFaultSince lines value after → value.isObject = true := by
  unfold selectEvents at chosen
  split at chosen
  · cases chosen
  · rename_i found searched
    obtain rfl := Except.ok.inj chosen
    cases found with
    | none =>
        have met := searchFault_none searched
        have unmarked :
            ∀ value ∈ lines, value.isFault = false := by
          intro value member
          exact (met value (List.mem_reverse.mpr member)).2
        constructor
        · rw [Latest.sinceLatest_eq_self unmarked]
          exact Latest.rtake_rtake limit lines
        · rintro value after ⟨⟨before, rfl⟩, -⟩
          exact (met value (by simp)).1
    | some index =>
        obtain ⟨newer, value, older, split, rfl, isFault, object, others⟩ :=
          searchFault_some searched
        have inOrder :
            lines = older.reverse ++ value :: newer.reverse := by
          have turned := congrArg List.reverse split
          simpa using turned
        have unmarked :
            ∀ other ∈ newer.reverse, other.isFault = false := by
          intro other member
          exact (others other (List.mem_reverse.mp member)).2
        constructor
        · rw [inOrder, Latest.sinceLatest_append isFault unmarked]
          simp
        · rintro item after ⟨⟨before, alsoSplit⟩, noFaults⟩
          have member := Latest.mem_sinceLatest alsoSplit noFaults
          rw [inOrder, Latest.sinceLatest_append isFault unmarked]
            at member
          rcases List.mem_cons.mp member with rfl | inNewer
          · exact object
          · exact (others item (List.mem_reverse.mp inNewer)).1

/-- The selection fails at a value from the latest fault on. -/
theorem selectEvents_error
    {limit : Nat}
    {lines : List LogValue}
    {error : String}
    (raised : selectEvents limit lines = .error error) :
    ∃ value after,
      NoFaultSince lines value after ∧ value.isObject = false := by
  unfold selectEvents at raised
  split at raised
  · rename_i searched
    obtain ⟨newer, value, older, split, noObject, noFaults⟩ :=
      searchFault_error searched
    refine ⟨value, newer.reverse, ⟨⟨older.reverse, ?_⟩, ?_⟩, noObject⟩
    · have turned := congrArg List.reverse split
      simpa using turned
    · intro later member
      exact noFaults later (List.mem_reverse.mp member)
  · cases raised

/-- An object is checked for an error, unless its status is unusable. -/
theorem isError_eq_ok
    {tools : LogTools}
    {value : LogValue}
    {counts : Bool} :
    value.isError tools = .ok counts ↔
      value.usable tools = true ∧ counts = value.carriesError tools := by
  unfold LogValue.isError LogValue.usable LogValue.carriesError
    LogValue.failedStatus
  cases object : value.isObject with
  | false =>
      simp
  | true =>
      by_cases flagged :
          value.flag "error" = true ∨ value.flag "error_type" = true
      · have either :
            (value.flag "error" || value.flag "error_type") = true := by
          simpa using flagged
        simp only [if_pos flagged, either, Bool.true_or, Bool.and_true,
          Except.ok.injEq, true_and, Bool.true_eq_false, if_false]
        exact eq_comm
      · have neither :
            (value.flag "error" || value.flag "error_type") = false := by
          simpa using flagged
        cases status : value.status tools with
        | error error =>
            simp [flagged, neither, Except.isOk, Except.toBool]
        | ok status =>
            simp only [if_neg flagged, neither, Except.isOk,
              Except.toBool, Except.toOption, Option.any_some,
              Bool.false_or, Bool.and_true, Except.ok.injEq, true_and,
              Bool.true_eq_false, if_false]
            exact eq_comm

/-- The errors are counted exactly if all selected items are usable. -/
theorem errorItems_eq_ok
    {tools : LogTools}
    {items errors : List LogValue} :
    errorItems tools items = .ok errors ↔
      (∀ value ∈ items, value.usable tools = true) ∧
        errors = items.filter (LogValue.carriesError tools) := by
  induction items generalizing errors with
  | nil =>
      simp only [errorItems, Except.ok.injEq, List.not_mem_nil,
        false_implies, implies_true, true_and, List.filter_nil]
      exact eq_comm
  | cons value rest inductionHypothesis =>
      rw [errorItems]
      cases checked : value.isError tools with
      | error error =>
          have unusable : ¬ value.usable tools = true := by
            intro usable
            have returned := isError_eq_ok.mpr ⟨usable, rfl⟩
            rw [checked] at returned
            cases returned
          simp [unusable]
      | ok counts =>
          obtain ⟨usable, rfl⟩ := isError_eq_ok.mp checked
          cases others : errorItems tools rest with
          | error error =>
              have fails : ¬ ∀ value ∈ rest, value.usable tools = true := by
                intro all
                have returned := inductionHypothesis.mpr ⟨all, rfl⟩
                rw [others] at returned
                cases returned
              simp [fails]
          | ok found =>
              obtain ⟨all, rfl⟩ := inductionHypothesis.mp others
              simp only [Except.ok.injEq, List.mem_cons, forall_eq_or_imp,
                usable, true_and, List.filter_cons]
              constructor
              · rintro rfl
                exact ⟨all, rfl⟩
              · rintro ⟨-, rfl⟩
                rfl

/-- The selected values are those with few values and no fault after them. -/
theorem mem_selected
    {limit : Nat}
    {values selected : List LogValue}
    (chosen : selectEvents limit values = .ok selected)
    {value : LogValue} :
    value ∈ selected ↔
      ∃ after, NoFaultSince values value after ∧ after.length < limit := by
  obtain ⟨rfl, -⟩ := selectEvents_ok chosen
  rw [Latest.mem_rtake_sinceLatest]
  constructor
  · rintro ⟨before, after, split, noFaults, few⟩
    exact ⟨after, ⟨⟨before, split⟩, noFaults⟩, few⟩
  · rintro ⟨after, ⟨⟨before, split⟩, noFaults⟩, few⟩
    exact ⟨before, after, split, noFaults, few⟩

/-- Values are selected and counted exactly if they are readable. -/
theorem selected_counted_iff
    {tools : LogTools}
    {limit : Nat}
    {values : List LogValue} :
    (∃ selected errors,
        selectEvents limit values = .ok selected ∧
          errorItems tools selected = .ok errors) ↔
      ReadableValues tools values limit := by
  constructor
  · rintro ⟨selected, errors, chosen, counted⟩
    obtain ⟨usable, -⟩ := errorItems_eq_ok.mp counted
    refine ⟨(selectEvents_ok chosen).2, ?_⟩
    intro value after since few
    exact usable value ((mem_selected chosen).mpr ⟨after, since, few⟩)
  · intro readable
    cases chosen : selectEvents limit values with
    | error error =>
        obtain ⟨value, after, since, noObject⟩ := selectEvents_error chosen
        rw [readable.objects value after since] at noObject
        cases noObject
    | ok selected =>
        refine ⟨selected, _, rfl, errorItems_eq_ok.mpr ⟨?_, rfl⟩⟩
        intro value member
        obtain ⟨after, since, few⟩ := (mem_selected chosen).mp member
        exact readable.usable value after since few

/-- What is selected and counted of the values is what should be shown. -/
theorem selected_eq_latest
    {tools : LogTools}
    {limit : Nat}
    {values selected errors : List LogValue}
    (chosen : selectEvents limit values = .ok selected)
    (counted : errorItems tools selected = .ok errors) :
    selected =
        (Latest.sinceLatest LogValue.isFault
            (values.filter (LogValue.usable tools))).rtake limit ∧
      errors.length = selected.countP (LogValue.carriesError tools) := by
  obtain ⟨usable, rfl⟩ := errorItems_eq_ok.mp counted
  obtain ⟨rfl, -⟩ := selectEvents_ok chosen
  exact
    ⟨(Latest.rtake_sinceLatest_filter usable).symm,
      List.countP_eq_length_filter.symm⟩

/-- What should be returned for the JSON values of a file. -/
def latestWindow
    (tools : LogTools)
    (logFile service window : String)
    (values : List LogValue)
    (limit : Nat) : LogWindow :=
  let events :=
    (Latest.sinceLatest LogValue.isFault
        (values.filter (LogValue.usable tools))).rtake limit
  { service := service
    window := window
    count := events.length
    errorCount := events.countP (LogValue.carriesError tools)
    events := events
    unavailable :=
      if values.isEmpty = true then
        some ("structured log source unavailable", logFile)
      else
        none }

/-- What should be returned shows the latest objects. -/
theorem latestWindow_shows
    (tools : LogTools)
    (logFile service window : String)
    (values : List LogValue)
    (limit : Nat) :
    ShowsLatest tools values limit
      (latestWindow tools logFile service window values limit) where
  events := rfl
  count := rfl
  errorCount := rfl

/-- The values of a file are shown only if they are readable. -/
theorem readable_of_showEvents
    {tools : LogTools}
    {logFile service window : String}
    {limit : Nat}
    {values : List LogValue}
    {shown : LogWindow}
    (returned :
      showEvents tools logFile service window limit values = .ok shown) :
    ReadableValues tools values limit := by
  unfold showEvents at returned
  cases values with
  | nil =>
      constructor
      · rintro value after ⟨⟨before, split⟩, -⟩
        simp at split
      · rintro value after ⟨⟨before, split⟩, -⟩
        simp at split
  | cons first rest =>
      simp only [List.isEmpty_cons, Bool.false_eq_true, if_false]
        at returned
      cases chosen : selectEvents limit (first :: rest) with
      | error error =>
          rw [chosen] at returned
          cases returned
      | ok selected =>
          rw [chosen] at returned
          dsimp only at returned
          cases counted : errorItems tools selected with
          | error error =>
              rw [counted] at returned
              cases returned
          | ok errors =>
              exact
                selected_counted_iff.mp ⟨selected, errors, chosen, counted⟩

/-- Readable values are shown as they should be. -/
theorem showEvents_of_readable
    {tools : LogTools}
    (logFile service window : String)
    {limit : Nat}
    {values : List LogValue}
    (readable : ReadableValues tools values limit) :
    showEvents tools logFile service window limit values =
      .ok (latestWindow tools logFile service window values limit) := by
  unfold showEvents latestWindow
  cases values with
  | nil =>
      simp [Latest.sinceLatest, Latest.upTo]
  | cons first rest =>
      obtain ⟨selected, errors, chosen, counted⟩ :=
        selected_counted_iff.mpr readable
      obtain ⟨isLatest, errorCount⟩ := selected_eq_latest chosen counted
      simp only [List.isEmpty_cons, Bool.false_eq_true, if_false]
      rw [chosen]
      dsimp only
      rw [counted, ← isLatest, ← errorCount]

/-- The lines of a file are read without an exception of `json.loads`. -/
def LoadsQuietly (tools : LogTools) (content : List UInt8) : Prop :=
  ∀ line ∈ logLines content,
    ∀ error, tools.jsonLoads line ≠ .raised error

/-- Before `safe_tool`, readable values are shown as they should be. -/
theorem readLogs_eq_window
    {tools : LogTools}
    {logFile service window : String}
    {content : List UInt8}
    {limit : Int}
    (inRange : 1 ≤ limit ∧ limit ≤ 50)
    {shown : LogWindow} :
    readLogs tools logFile (some content) service window limit =
        .ok (.window shown) ↔
      LoadsQuietly tools content ∧
        ReadableValues tools (jsonValues tools content) limit.toNat ∧
        shown =
          latestWindow tools logFile service window
            (jsonValues tools content) limit.toNat := by
  rw [readLogs, if_pos inRange, fileValues]
  cases loaded : loadLines tools (logLines content) with
  | error error =>
      constructor
      · intro returned
        cases returned
      · rintro ⟨loads, -⟩
        have values := loadLines_eq_ok.mpr ⟨loads, rfl⟩
        rw [loaded] at values
        cases values
  | ok values =>
      obtain ⟨loads, isValues⟩ := loadLines_eq_ok.mp loaded
      rw [← jsonValues] at isValues
      rw [← isValues]
      dsimp only
      constructor
      · intro returned
        cases result :
            showEvents tools logFile service window limit.toNat values with
        | error error =>
            rw [result] at returned
            cases returned
        | ok found =>
            have readable := readable_of_showEvents result
            rw [showEvents_of_readable logFile service window readable]
              at returned
            cases returned
            exact ⟨loads, readable, rfl⟩
      · rintro ⟨-, readable, rfl⟩
        rw [showEvents_of_readable logFile service window readable]
        rfl

/--
`read_logs` returns the latest well-formed objects exactly if no line makes
`json.loads` fail other than on malformed JSON, the JSON values are readable, and
the arguments and what should be returned are within the limits of `safe_tool`.
-/
theorem log_reading_tolerant_iff
    (json : JsonTools)
    (tools : LogTools)
    (logFile : String)
    (content : List UInt8)
    (service window : String)
    {limit : Int}
    (least : 1 ≤ limit)
    (greatest : limit ≤ 50) :
    (∃ shown,
        readLogsTool json tools logFile (some content) service window
              limit =
            .ok (.window shown) ∧
          ShowsLatest tools (jsonValues tools content) limit.toNat
            shown) ↔
      LoadsQuietly tools content ∧
        ReadableValues tools (jsonValues tools content) limit.toNat ∧
        toolInputLimit json (logArguments service window limit) = .ok () ∧
        toolOutputLimit
            (tools.dumps
              (latestWindow tools logFile service window
                (jsonValues tools content) limit.toNat).value) =
          .ok () := by
  have inRange : 1 ≤ limit ∧ limit ≤ 50 := ⟨least, greatest⟩
  have foreign :
      ∀ shown fields, LogReply.refused fields ≠ .window shown := by
    intro shown fields same
    cases same
  constructor
  · rintro ⟨shown, returned, -⟩
    obtain ⟨input, wrapped, output⟩ :=
      (limitedTool_eq_ok (foreign shown)).mp returned
    obtain ⟨loads, readable, rfl⟩ :=
      (readLogs_eq_window inRange).mp wrapped
    exact ⟨loads, readable, input, output⟩
  · rintro ⟨loads, readable, input, output⟩
    have wrapped :=
      (@readLogs_eq_window tools logFile service window content limit
        inRange _).mpr ⟨loads, readable, rfl⟩
    exact
      ⟨_,
        (limitedTool_eq_ok (foreign _)).mpr ⟨input, wrapped, output⟩,
        latestWindow_shows tools logFile service window _ _⟩

/-- A line about a request that went well. -/
def quietLine : String :=
  "\x7b\"status\": 200\x7d"

/-- A line about the request that injects a fault. -/
def faultLine : String :=
  "\x7b\"path\": \"/admin/fault\", \"method\": \"POST\"\x7d"

/-- A line about a request that failed. -/
def failedLine : String :=
  "\x7b\"status\": 500\x7d"

/-- The dictionary of a line with a status. -/
def statusValue (status : Int) : LogValue :=
  .object [(codePoints "status", .int status)]

/-- The dictionary of the line about the fault. -/
def faultValue : LogValue :=
  .object
    [(codePoints "path", .string (codePoints "/admin/fault")),
      (codePoints "method", .string (codePoints "POST"))]

/-- What is dumped when the last two of these lines are shown. -/
def shownText : String :=
  "\x7b\"service\": \"orders-api\", \"window\": \"incident\", " ++
    "\"count\": 2, \"error_count\": 1, \"events\": [" ++
    faultLine ++ ", " ++ failedLine ++ "]\x7d"

/-- Library functions for these lines, and for one with an empty list. -/
def lineTools : LogTools where
  jsonLoads line :=
    if line = quietLine then .value (statusValue 200)
    else if line = faultLine then .value faultValue
    else if line = failedLine then .value (statusValue 500)
    else if line = "[]" then .value (.array [])
    else .decodeError
  parseInt _ := .error "invalid literal for int() with base 10"
  dumps _ := .ok shownText

/-- The bytes of lines in ASCII. -/
def asciiLog (lines : List String) : List UInt8 :=
  lines.flatMap fun line =>
    (line.toList ++ ['\n']).map fun char => UInt8.ofNat char.toNat

/-- A fault among two requests. -/
def faultLog : List UInt8 :=
  asciiLog [quietLine, faultLine, failedLine]

/-- The lines about a fault among two requests. -/
theorem logLines_faultLog :
    logLines faultLog = [quietLine, faultLine, failedLine] := by
  decide +kernel

/-- The line of a log of one empty list. -/
theorem logLines_arrayLog : logLines (asciiLog ["[]"]) = ["[]"] := by
  decide +kernel

/-- The values of the lines about a fault among two requests. -/
theorem jsonValues_faultLog :
    jsonValues lineTools faultLog =
      [statusValue 200, faultValue, statusValue 500] := by
  have faultDiffers : faultLine ≠ quietLine := by
    decide +kernel
  have failedDiffers : failedLine ≠ quietLine ∧ failedLine ≠ faultLine := by
    decide +kernel
  rw [jsonValues, logLines_faultLog]
  simp [lineTools, Loaded.value?, faultDiffers, failedDiffers]

/-- The fault and what followed it are shown, with one error. -/
theorem log_reading_tolerant_fault :
    ∃ shown,
      readLogsTool sampleJsonTools lineTools "orders.jsonl"
          (some faultLog) "orders-api" "incident" 50 =
        .ok (.window shown) ∧
        shown.events = [faultValue, statusValue 500] ∧
        shown.errorCount = 1 := by
  have values := jsonValues_faultLog
  have allUsable :
      ∀ value ∈ jsonValues lineTools faultLog,
        value.isObject = true ∧ value.usable lineTools = true := by
    rw [values]
    simp only [List.forall_mem_cons, List.not_mem_nil, false_implies,
      implies_true, and_true]
    decide +kernel
  have member
      {value : LogValue}
      {after : List LogValue}
      (since :
        NoFaultSince (jsonValues lineTools faultLog) value after) :
      value ∈ jsonValues lineTools faultLog := by
    obtain ⟨⟨before, split⟩, -⟩ := since
    rw [split]
    simp
  have loads : LoadsQuietly lineTools faultLog := by
    intro line inLines error
    simp only [lineTools]
    split
    · simp
    · split
      · simp
      · split
        · simp
        · split <;> simp
  have readable :
      ReadableValues lineTools (jsonValues lineTools faultLog)
        (50 : Int).toNat :=
    { objects := fun value after since =>
        (allUsable value (member since)).1
      usable := fun value after since _ =>
        (allUsable value (member since)).2 }
  obtain ⟨shown, returned, shows⟩ :=
    (log_reading_tolerant_iff sampleJsonTools lineTools "orders.jsonl"
      faultLog "orders-api" "incident" (show (1 : Int) ≤ 50 by decide)
      (by decide)).mpr
      ⟨loads, readable, by decide +kernel, by decide +kernel⟩
  have events : shown.events = [faultValue, statusValue 500] := by
    rw [shows.events, values]
    rfl
  refine ⟨shown, returned, events, ?_⟩
  rw [shows.errorCount, events]
  decide +kernel

/-- A line with an empty list ends the tool with an exception. -/
theorem log_array_raises :
    readLogsTool sampleJsonTools lineTools "orders.jsonl"
        (some (asciiLog ["[]"])) "orders-api" "incident" 50 =
      .error "'list' object has no attribute 'get'" := by
  have wrapped :
      readLogs lineTools "orders.jsonl" (some (asciiLog ["[]"]))
          "orders-api" "incident" 50 =
        .error "'list' object has no attribute 'get'" := by
    rw [readLogs, if_pos (by decide), fileValues, logLines_arrayLog]
    rfl
  rw [readLogsTool, wrapped]
  rfl

end IncidentPilot
