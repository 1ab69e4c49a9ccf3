import IncidentPilot.ReadonlyQuery

/-!
# What the readonly database tool lets through

Whatever PostgreSQL answers, and whatever others write meanwhile: the query of
the caller is executed only in a readonly transaction of a role that passes the
checks, under the limits of the tool, and only as the validator has rewritten it.
-/

namespace IncidentPilot

variable {Cell : Type}
variable {tools : CellTools Cell}
variable {server : ReferenceServer Cell}

/-- The first two questions are different. -/
theorem roleStatement_ne_default : roleStatement ≠ defaultStatement := by
  decide +kernel

/-- The first and the last question are different. -/
theorem roleStatement_ne_privilege :
    roleStatement ≠ privilegeStatement := by
  decide +kernel

/-- The last two questions are different. -/
theorem defaultStatement_ne_privilege :
    defaultStatement ≠ privilegeStatement := by
  decide +kernel

/-- A question about the role is no limit. -/
theorem inspection_noLimit :
    ∀ statement ∈ inspectionStatements, statement ∉ limitStatements := by
  decide +kernel

/-- What is answered about the role is a question about it. -/
theorem Describes.inspects
    {role : PgRole}
    {statement : String}
    {rows : List (List Cell)}
    (describes : Describes tools role statement rows) :
    statement ∈ inspectionStatements := by
  cases describes <;> simp [inspectionStatements]

/-- What PostgreSQL answers about the attributes of the role. -/
theorem Describes.attributes
    {role : PgRole}
    {statement : String}
    {rows : List (List Cell)}
    (describes : Describes tools role statement rows)
    (asks : statement = roleStatement) :
    rows = [] ∨
      ∃ flags, rows = [flags] ∧
        flags.map tools.truthy = role.attributes := by
  cases describes with
  | unknownRole =>
      exact .inl rfl
  | role attributes =>
      exact .inr ⟨_, rfl, attributes⟩
  | default on =>
      exact absurd asks.symm roleStatement_ne_default
  | privileges writes =>
      exact absurd asks.symm roleStatement_ne_privilege

/-- What PostgreSQL answers about the mode of transactions. -/
theorem Describes.mode
    {role : PgRole}
    {statement : String}
    {rows : List (List Cell)}
    (describes : Describes tools role statement rows)
    (asks : statement = defaultStatement) :
    ∃ cell, rows = [[cell]] ∧
      tools.isOn cell = role.readOnlyByDefault := by
  cases describes with
  | unknownRole =>
      exact absurd asks roleStatement_ne_default
  | role attributes =>
      exact absurd asks roleStatement_ne_default
  | default on =>
      exact ⟨_, rfl, on⟩
  | privileges writes =>
      exact absurd asks.symm defaultStatement_ne_privilege

/-- What PostgreSQL answers about the privileges on tables. -/
theorem Describes.writes
    {role : PgRole}
    {statement : String}
    {rows : List (List Cell)}
    (describes : Describes tools role statement rows)
    (asks : statement = privilegeStatement) :
    rows.map (fun row => row.head?.map tools.truthy) =
      role.writesPublicTables.map some := by
  cases describes with
  | unknownRole =>
      exact absurd asks roleStatement_ne_privilege
  | role attributes =>
      exact absurd asks roleStatement_ne_privilege
  | default on =>
      exact absurd asks defaultStatement_ne_privilege
  | privileges writes =>
      exact writes

/-- What the execution of a statement did to the session. -/
inductive ExecutedAs
    (tools : CellTools Cell)
    (server : ReferenceServer Cell)
    (world : ReferenceWorld Cell)
    (session : PgSession)
    (statement : String)
    (result : CursorResult Cell)
    (after : ReferenceWorld Cell) : Prop where
  | described
      {columns : List String}
      {rows : List (List Cell)}
      (shape : result = ⟨some columns, .ok rows⟩)
      (describes : Describes tools server.role statement rows)
      (kept : after.session = some session)
  | limited
      (limits : statement ∈ limitStatements)
      (added :
        after.session =
          some
            { session with settings := session.settings ++ [statement] })
  | queried
      (other : statement ∉ ownStatements)
      (returned : server.execute statement world.database = .ok result)
      (kept : after.session = some session)

/-- What was executed was executed in the session, and is recorded. -/
theorem ServesReference.executedAs
    {world after : ReferenceWorld Cell}
    {session : PgSession}
    {statement : String}
    {result : CursorResult Cell}
    (serves :
      ServesReference tools server world (.execute statement) (.ok result)
        after)
    (isOpen : world.session = some session) :
    ExecutedAs tools server world session statement result after ∧
      after.executed =
        ⟨statement, world.database, result⟩ :: world.executed := by
  cases serves with
  | described columns opened describes =>
      rw [isOpen] at opened
      cases opened
      exact ⟨.described rfl describes rfl, rfl⟩
  | limited result opened limits =>
      rw [isOpen] at opened
      cases opened
      exact ⟨.limited limits rfl, rfl⟩
  | queried opened other returned =>
      rw [isOpen] at opened
      cases opened
      exact ⟨.queried other returned rfl, rfl⟩

/-- The query of the caller may run: the role has passed, the limits are set. -/
structure ReferenceWorld.Guarded
    (server : ReferenceServer Cell)
    (world : ReferenceWorld Cell) : Prop where
  passes : server.role.PassesChecks
  limited : world.session = some ⟨true, limitStatements⟩

/-- What the tool may execute for a query. -/
def ReferenceWorld.MayExecute
    (glot : Sqlglot)
    (server : ReferenceServer Cell)
    (query : String)
    (world : ReferenceWorld Cell) : PgRequest → Prop
  | .execute statement =>
      statement ∈ ownStatements ∨
        ∃ validated,
          validateReadonlySql glot query = .ok validated ∧
            statement = validated.query ∧
            world.Guarded server
  | _ => True

/-- A judgement about a part of the tool. -/
abbrev KeepsQuery
    {Value : Type}
    (tools : CellTools Cell)
    (server : ReferenceServer Cell)
    (glot : Sqlglot)
    (query : String)
    (program : PgProgram Cell Value)
    (world : ReferenceWorld Cell)
    (returns : Value → ReferenceWorld Cell → Prop) : Prop :=
  Program.Keeps (referenceSurroundings tools server)
    (ReferenceWorld.MayExecute glot server query) program world returns
    fun _ _ => True

section

variable {glot : Sqlglot} {query : String}
variable {world : ReferenceWorld Cell} {session : PgSession}

/-- A statement that may be executed is executed in the session, or it fails. -/
theorem keeps_executed
    {statement : String}
    (isOpen : world.session = some session)
    (permitted :
      ∀ disturbed : ReferenceWorld Cell,
        disturbed.session = some session →
        disturbed.MayExecute glot server query (.execute statement)) :
    KeepsQuery tools server glot query (executed statement) world
      fun result after =>
        ∃ disturbed : ReferenceWorld Cell,
          ExecutedAs tools server disturbed session statement result
              after ∧
            ⟨statement, disturbed.database, result⟩ ∈
              after.executed := by
  refine .ask ?_
  rintro disturbed ⟨sameSession, -⟩
  have opened := sameSession.trans isOpen
  refine ⟨permitted disturbed opened, ?_⟩
  intro answer served serves
  cases answer with
  | error message =>
      exact .raise trivial
  | ok result =>
      obtain ⟨executedAs, recorded⟩ :=
        ServesReference.executedAs serves opened
      exact .done ⟨disturbed, executedAs, by simp [recorded]⟩

/-- A statement of the tool about the role is answered by its description. -/
theorem keeps_inspection
    {statement : String}
    (isOpen : world.session = some session)
    (inspects : statement ∈ inspectionStatements) :
    KeepsQuery tools server glot query (executed statement) world
      fun result after =>
        after.session = some session ∧
          ∃ columns rows,
            result = ⟨some columns, .ok rows⟩ ∧
              Describes tools server.role statement rows := by
  have own : statement ∈ ownStatements :=
    List.mem_append_left _ inspects
  refine
    (keeps_executed isOpen fun _ _ => .inl own).mono
      (fun _ _ permitted => permitted) ?_ (fun _ _ _ => trivial)
  rintro result after ⟨disturbed, executedAs, -⟩
  cases executedAs with
  | described shape describes kept =>
      exact ⟨kept, _, _, shape, describes⟩
  | limited limits added =>
      exact absurd limits (inspection_noLimit statement inspects)
  | queried other returned kept =>
      exact absurd own other

/-- A role that passes has no attributes, and its transactions are readonly. -/
theorem keeps_checkRole (isOpen : world.session = some session) :
    KeepsQuery tools server glot query (checkRole tools) world
      fun _ after =>
        after.session = some session ∧
          (∀ flag ∈ server.role.attributes, flag = false) ∧
          server.role.readOnlyByDefault = true := by
  apply Program.Keeps.bind
  refine
    (keeps_inspection isOpen (by simp [inspectionStatements])).mono
      (fun _ _ permitted => permitted) ?_ (fun _ _ _ => trivial)
  rintro attributes middle ⟨stillOpen, columns, rows, rfl, describes⟩
  change
    KeepsQuery tools server glot query
      (executed defaultStatement >>= requireReadonly tools rows.head?)
      middle _
  apply Program.Keeps.bind
  refine
    (keeps_inspection stillOpen (by simp [inspectionStatements])).mono
      (fun _ _ permitted => permitted) ?_ (fun _ _ _ => trivial)
  rintro shown after ⟨openedStill, modes, shownRows, rfl, showsMode⟩
  obtain ⟨cell, rfl, isOn⟩ := showsMode.mode rfl
  rcases describes.attributes rfl with rfl | ⟨flags, rfl, isAttributes⟩
  · exact .raise trivial
  · by_cases any : flags.any tools.truthy = true
    · simp only [requireReadonly, List.head?_cons, if_pos any]
      exact .raise trivial
    · simp only [requireReadonly, List.head?_cons, if_neg any]
      by_cases on : tools.isOn cell = true
      · change
          KeepsQuery tools server glot query
            (if tools.isOn cell = true then .done () else .raise _) after _
        rw [if_pos on]
        refine .done ⟨openedStill, ?_, isOn ▸ on⟩
        intro flag member
        rw [← isAttributes] at member
        obtain ⟨known, inFlags, rfl⟩ := List.mem_map.mp member
        exact
          Bool.eq_false_iff.mpr fun truthy =>
            any (List.any_eq_true.mpr ⟨known, inFlags, truthy⟩)
      · change
          KeepsQuery tools server glot query
            (if tools.isOn cell = true then .done () else .raise _) after _
        rw [if_neg on]
        exact .raise trivial

/-- With the privileges of the role, `any` says whether it has one. -/
theorem anyFirst_eq
    {rows : List (List Cell)}
    {reported : List Bool}
    (writes :
      rows.map (fun row => row.head?.map tools.truthy) =
        reported.map some) :
    anyFirst tools rows = .done (reported.any id) := by
  induction rows generalizing reported with
  | nil =>
      obtain rfl := List.map_eq_nil_iff.mp writes.symm
      rfl
  | cons row rest inductionHypothesis =>
      obtain ⟨table, others, rfl, first, remaining⟩ :=
        List.map_eq_cons_iff.mp writes.symm
      obtain ⟨cell, cells, rfl⟩ : ∃ cell cells, row = cell :: cells := by
        cases row with
        | nil =>
            cases first
        | cons cell cells =>
            exact ⟨cell, cells, rfl⟩
      obtain rfl : table = tools.truthy cell := Option.some.inj first
      change
        (if tools.truthy cell = true then .done true
          else anyFirst tools rest) = _
      cases truthy : tools.truthy cell with
      | true =>
          simp
      | false =>
          simp [inductionHypothesis remaining.symm]

/-- A role that passes is reported to write to no table of `public`. -/
theorem keeps_checkPrivileges (isOpen : world.session = some session) :
    KeepsQuery tools server glot query (checkPrivileges tools) world
      fun _ after =>
        after.session = some session ∧
          ∀ table ∈ server.role.writesPublicTables, table = false := by
  apply Program.Keeps.bind
  refine
    (keeps_inspection isOpen (by simp [inspectionStatements])).mono
      (fun _ _ permitted => permitted) ?_ (fun _ _ _ => trivial)
  rintro result after ⟨stillOpen, columns, rows, rfl, describes⟩
  change
    KeepsQuery tools server glot query
      (anyFirst tools rows >>= fun writes =>
        if writes = true then .raise _ else .done ())
      after _
  rw [anyFirst_eq (describes.writes rfl)]
  change
    KeepsQuery tools server glot query
      (if server.role.writesPublicTables.any id = true then
          .raise _
        else .done ())
      after _
  by_cases writes : server.role.writesPublicTables.any id = true
  · rw [if_pos writes]
    exact .raise trivial
  · rw [if_neg writes]
    refine .done ⟨stillOpen, fun table member => ?_⟩
    exact
      Bool.eq_false_iff.mpr fun reported =>
        writes (List.any_eq_true.mpr ⟨table, member, reported⟩)

/-- The limits that are set are added to those of the session. -/
theorem keeps_setLimits
    {limits : List String}
    (isOpen : world.session = some session)
    (own : ∀ statement ∈ limits, statement ∈ limitStatements) :
    KeepsQuery tools server glot query (setLimits limits) world
      fun _ after =>
        after.session =
          some { session with settings := session.settings ++ limits } := by
  induction limits generalizing world session with
  | nil =>
      exact .done (by simpa using isOpen)
  | cons statement rest inductionHypothesis =>
      obtain ⟨isLimit, others⟩ := List.forall_mem_cons.mp own
      have isOwn : statement ∈ ownStatements :=
        List.mem_append_right _ isLimit
      apply Program.Keeps.bind
      refine
        (keeps_executed isOpen fun _ _ => .inl isOwn).mono
          (fun _ _ permitted => permitted) ?_ (fun _ _ _ => trivial)
      rintro result after ⟨disturbed, executedAs, -⟩
      cases executedAs with
      | described shape describes kept =>
          exact
            absurd isLimit (inspection_noLimit _ describes.inspects)
      | queried other returned kept =>
          exact absurd isOwn other
      | limited limits added =>
          have continues := inductionHypothesis added others
          simpa using continues

/-- A reply with the rows that the validated query returned. -/
def QueryReply.Reports
    (server : ReferenceServer Cell)
    (validated : SafeQuery)
    (reply : QueryReply Cell)
    (history : List (PgExecuted Cell)) : Prop :=
  server.role.PassesChecks ∧
    ∃ executed ∈ history,
      executed.statement = validated.query ∧
        (validated.query ∉ ownStatements →
          server.execute validated.query executed.database =
            .ok executed.result) ∧
        ((executed.result.description = none ∧
            reply = .rows validated.query []) ∨
          ∃ columns rows,
            executed.result.description = some columns ∧
              executed.result.rows = .ok rows ∧
              reply = .rows validated.query (replyRows columns rows))

/-- What the body returns reports what the guarded query returned. -/
theorem keeps_inSession
    {validated : SafeQuery}
    (accepted : validateReadonlySql glot query = .ok validated)
    (isOpen : world.session = some ⟨true, []⟩) :
    KeepsQuery tools server glot query (inSession tools validated.query)
      world fun reply after =>
        reply.Reports server validated after.executed := by
  apply Program.Keeps.bind
  refine
    (keeps_checkRole isOpen).mono (fun _ _ permitted => permitted) ?_
      (fun _ _ _ => trivial)
  rintro _ first ⟨firstOpen, plain, readOnly⟩
  apply Program.Keeps.bind
  refine
    (keeps_checkPrivileges firstOpen).mono
      (fun _ _ permitted => permitted) ?_ (fun _ _ _ => trivial)
  rintro _ second ⟨secondOpen, unprivileged⟩
  have passes : server.role.PassesChecks :=
    ⟨plain, readOnly, unprivileged⟩
  apply Program.Keeps.bind
  refine
    (keeps_setLimits secondOpen fun _ member => member).mono
      (fun _ _ permitted => permitted) ?_ (fun _ _ _ => trivial)
  rintro _ third limited
  apply Program.Keeps.bind
  refine
    (keeps_executed limited fun disturbed opened =>
      .inr ⟨validated, accepted, rfl, passes, opened⟩).mono
      (fun _ _ permitted => permitted) ?_ (fun _ _ _ => trivial)
  rintro ⟨description, rows⟩ after ⟨disturbed, executedAs, recorded⟩
  have returned :
      validated.query ∉ ownStatements →
        server.execute validated.query disturbed.database =
          .ok ⟨description, rows⟩ := by
    intro foreign
    cases executedAs with
    | described shape describes kept =>
        exact absurd (List.mem_append_left _ describes.inspects) foreign
    | limited limits added =>
        exact absurd (List.mem_append_right _ limits) foreign
    | queried other returned kept =>
        exact returned
  cases description with
  | none =>
      exact
        .done
          ⟨passes, _, recorded, rfl, returned, .inl ⟨rfl, rfl⟩⟩
  | some columns =>
      cases rows with
      | error message =>
          exact .raise trivial
      | ok rows =>
          exact
            .done
              ⟨passes, _, recorded, rfl, returned,
                .inr ⟨columns, rows, rfl, rfl, rfl⟩⟩

/-- A fresh readonly session is what the body of the connection begins with. -/
theorem keeps_withConnection
    {Value : Type}
    {body : PgProgram Cell Value}
    {returns : Value → List (PgExecuted Cell) → Prop}
    (keeps :
      ∀ start : ReferenceWorld Cell,
        start.session = some ⟨true, []⟩ →
        KeepsQuery tools server glot query body start
          fun value after => returns value after.executed) :
    KeepsQuery tools server glot query (withConnection body) world
      fun value after => returns value after.executed := by
  refine .ask ?_
  rintro disturbed -
  refine ⟨trivial, fun connected served serves => ?_⟩
  cases serves with
  | refused message =>
      exact .raise trivial
  | connected =>
      refine .ask ?_
      rintro quiet ⟨isOpen, -⟩
      refine ⟨trivial, fun isSet ready sets => ?_⟩
      apply Program.Keeps.bind
      have ends :
          KeepsQuery tools server glot query
            (((pgHeard isSet >>= fun _ => body) >>= fun value =>
                .done (Except.ok value)).handle
              fun message => .done (.error message))
            ready
            fun ended after =>
              ∀ value, ended = .ok value → returns value after.executed := by
        apply Program.Keeps.handle
        apply Program.Keeps.bind
        apply Program.Keeps.bind
        cases sets with
        | writable message =>
            exact .raise (.done (fun value same => by cases same))
        | readOnly opened =>
            rw [isOpen] at opened
            cases opened
            refine .done ((keeps _ rfl).mono
              (fun _ _ permitted => permitted) ?_ ?_)
            · intro value after holds
              refine .done fun other same => ?_
              cases same
              exact holds
            · intro message after _
              exact .done (fun value same => by cases same)
      refine ends.mono (fun _ _ permitted => permitted) ?_
        (fun _ _ _ => trivial)
      intro ended after holds
      cases ended with
      | error message =>
          refine .ask ?_
          rintro later -
          exact ⟨trivial, fun answer served serves => .raise trivial⟩
      | ok value =>
          refine .ask ?_
          rintro later ⟨-, sameExecuted⟩
          refine ⟨trivial, fun answer served serves => ?_⟩
          cases serves with
          | uncommitted message =>
              exact .raise trivial
          | committed =>
              refine .done ?_
              change returns value later.executed
              rw [sameExecuted]
              exact holds value rfl

end

/-- The rows of a reply are at most a hundred. -/
theorem length_replyRows_le
    (columns : List String)
    (rows : List (List Cell)) :
    (replyRows columns rows).length ≤ 100 := by
  unfold replyRows
  rw [List.length_map]
  exact List.length_take_le 100 rows

/--
A reply with rows has at most a hundred of them, and is about the validated
query, which a guarded session has executed and which returned these rows first.
-/
def QueryReply.Bounded
    (glot : Sqlglot)
    (server : ReferenceServer Cell)
    (query : String)
    (reply : QueryReply Cell)
    (history : List (PgExecuted Cell)) : Prop :=
  ∀ text rows,
    reply = .rows text rows →
    rows.length ≤ 100 ∧
      ∃ validated,
        validateReadonlySql glot query = .ok validated ∧
          text = validated.query ∧
          reply.Reports server validated history

section

variable {json : JsonTools} {glot : Sqlglot} {query : String}

/-- A reply that reports what the validated query returned is bounded. -/
theorem QueryReply.Reports.bounded
    {validated : SafeQuery}
    {reply : QueryReply Cell}
    {history : List (PgExecuted Cell)}
    (reports : reply.Reports server validated history)
    (accepted : validateReadonlySql glot query = .ok validated) :
    reply.Bounded glot server query history := by
  have report := reports
  obtain ⟨-, executed, -, -, -, shape⟩ := reports
  rintro text rows rfl
  rcases shape with ⟨-, same⟩ | ⟨columns, fetched, -, -, same⟩
  · cases same
    exact ⟨by simp, validated, accepted, rfl, report⟩
  · cases same
    exact
      ⟨length_replyRows_le columns fetched, validated, accepted, rfl,
        report⟩

/-- A reply without rows is bounded. -/
theorem QueryReply.bounded_of_ne_rows
    {reply : QueryReply Cell}
    {history : List (PgExecuted Cell)}
    (noRows : ∀ text rows, reply ≠ .rows text rows) :
    reply.Bounded glot server query history :=
  fun text rows same => absurd same (noRows text rows)

/-- The tool executes what it may, reports rows as they were, and never raises. -/
theorem keeps_queryDatabaseReadonly
    (refDbUrl : String)
    (world : ReferenceWorld Cell) :
    Program.Keeps (referenceSurroundings tools server)
      (ReferenceWorld.MayExecute glot server query)
      (queryDatabaseReadonly tools glot refDbUrl query) world
      (fun reply after => reply.Bounded glot server query after.executed)
      (fun _ _ => False) := by
  unfold queryDatabaseReadonly
  cases accepted : validateReadonlySql glot query with
  | error message =>
      exact
        .done (QueryReply.bounded_of_ne_rows fun _ _ same => by cases same)
  | ok validated =>
      by_cases isPostgres : startsWith refDbUrl "postgresql" = true
      · simp only [if_pos isPostgres]
        apply Program.Keeps.handle
        refine
          (keeps_withConnection fun start isOpen =>
            keeps_inSession accepted isOpen).mono
            (fun _ _ permitted => permitted) ?_ ?_
        · intro reply after reports
          exact reports.bounded accepted
        · intro message after _
          exact
            .done
              (QueryReply.bounded_of_ne_rows fun _ _ same => by cases same)
      · simp only [if_neg isPostgres]
        exact
          .done
            (QueryReply.bounded_of_ne_rows fun _ _ same => by cases same)

/-- What `safe_tool` makes of a reply that it can dump. -/
inductive PassedOn
    (json : JsonTools)
    (tools : CellTools Cell)
    (reply : QueryReply Cell) : Json → Prop where
  | tooLong
      {dumped : String}
      (written : json.dumps (reply.value tools).written = .ok dumped)
      (exceeds : 64000 < dumped.utf8ByteSize) :
      PassedOn json tools reply
        (.object (limitFields "tool output limit exceeded"))
  | redacted
      {dumped : String}
      (written : json.dumps (reply.value tools).written = .ok dumped)
      (within : dumped.utf8ByteSize ≤ 64000) :
      PassedOn json tools reply (redactReply json 0 (reply.value tools))

/-- What a call of the tool returns, for the replies that it may have. -/
inductive ToolReturns
    (json : JsonTools)
    (tools : CellTools Cell)
    (query : String)
    (mayReply : QueryReply Cell → Prop) : Json → Prop where
  | tooLong
      {dumped : String}
      (written : json.dumps (queryArguments query) = .ok dumped)
      (exceeds : 16000 < dumped.length) :
      ToolReturns json tools query mayReply
        (.object (limitFields "tool input limit exceeded"))
  | replied
      {reply : QueryReply Cell}
      {value : Json}
      (replies : mayReply reply)
      (passed : PassedOn json tools reply value) :
      ToolReturns json tools query mayReply value

/-- What a call of the tool raises: what `json.dumps` does. -/
inductive ToolRaises
    (json : JsonTools)
    (tools : CellTools Cell)
    (query : String)
    (mayReply : QueryReply Cell → Prop) : String → Prop where
  | arguments
      {error : DumpsError}
      (raised : json.dumps (queryArguments query) = .error error) :
      ToolRaises json tools query mayReply error.message
  | reply
      {reply : QueryReply Cell}
      {error : DumpsError}
      (replies : mayReply reply)
      (raised : json.dumps (reply.value tools).written = .error error) :
      ToolRaises json tools query mayReply error.message

/-- What is passed on of a reply. -/
theorem QueryReply.passedOn_cases
    (json : JsonTools)
    (tools : CellTools Cell)
    (reply : QueryReply Cell) :
    (∃ error,
        json.dumps (reply.value tools).written = .error error ∧
          reply.passedOn json tools = .error error.message) ∨
      ∃ value,
        PassedOn json tools reply value ∧
          reply.passedOn json tools = .ok value := by
  unfold QueryReply.passedOn
  rcases toolOutputLimit_cases (json.dumps (reply.value tools).written)
    with ⟨error, raised, fails⟩ | ⟨dumped, written, exceeds, fails⟩ |
      ⟨dumped, written, within, admits⟩
  · rw [fails]
    exact .inl ⟨error, raised, rfl⟩
  · rw [fails]
    exact .inr ⟨_, .tooLong written exceeds, rfl⟩
  · rw [admits]
    exact .inr ⟨_, .redacted written within, rfl⟩

/-- The wrapped tool executes what it may, and passes on a bounded reply. -/
theorem keeps_queryDatabaseTool
    (refDbUrl : String)
    (world : ReferenceWorld Cell) :
    Program.Keeps (referenceSurroundings tools server)
      (ReferenceWorld.MayExecute glot server query)
      (queryDatabaseTool json tools glot refDbUrl query) world
      (fun value after =>
        ToolReturns json tools query
          (fun reply => reply.Bounded glot server query after.executed)
          value)
      (fun message after =>
        ToolRaises json tools query
          (fun reply => reply.Bounded glot server query after.executed)
          message) := by
  unfold queryDatabaseTool
  rcases toolInputLimit_cases json (queryArguments query) with
    ⟨error, raised, fails⟩ | ⟨dumped, written, exceeds, fails⟩ | admits
  · rw [fails]
    exact .raise (.arguments raised)
  · rw [fails]
    exact .done (.tooLong written exceeds)
  · rw [admits]
    apply Program.Keeps.bind
    refine
      (keeps_queryDatabaseReadonly refDbUrl world).mono
        (fun _ _ permitted => permitted) ?_ (fun _ _ raised => raised.elim)
    intro reply after bounded
    rcases reply.passedOn_cases json tools with
      ⟨error, raised, fails⟩ | ⟨value, passed, returns⟩
    · rw [fails]
      exact .raise (.reply bounded raised)
    · rw [returns]
      exact .done (.replied bounded passed)

end

/-- Cells that are texts. -/
def textTools : CellTools String where
  truthy cell := cell = "t"
  isOn cell := cell = "on"
  value cell := .json (.string cell)

/-- A server with a readonly role that answers the query for the customers. -/
def quietServer : ReferenceServer String where
  role := ⟨[false, false, false, false, false], true, [false]⟩
  execute statement database :=
    (executeFor identifiersText identifiersQuery statement database).map
      fun rows => ⟨some ["id"], .ok rows⟩

/-- The rows that the quiet server returns to the statements of the tool. -/
def quietRows (statement : String) : List (List String) :=
  if statement = roleStatement then
    [["f", "f", "f", "f", "f"]]
  else if statement = defaultStatement then
    [["on"]]
  else
    [["f"]]

/-- What the quiet server answers to the statements of the tool. -/
def quietResult (statement : String) : CursorResult String :=
  ⟨some [], .ok (quietRows statement)⟩

/-- A PostgreSQL that fails in nothing. -/
def serveQuietly
    (world : ReferenceWorld String) :
    (request : PgRequest) →
      Option (PgAnswer String request × ReferenceWorld String)
  | .connect => some (.ok (), { world with session := some ⟨false, []⟩ })
  | .setReadOnly =>
      world.session.map fun session =>
        (.ok (),
          { world with session := some { session with readOnly := true } })
  | .execute statement =>
      world.session.bind fun session =>
        if statement ∈ limitStatements then
          some
            (.ok (quietResult statement),
              world.executing
                { session with
                  settings := session.settings ++ [statement] }
                statement (quietResult statement))
        else if statement ∈ ownStatements then
          some
            (.ok (quietResult statement),
              world.executing session statement (quietResult statement))
        else
          match quietServer.execute statement world.database with
          | .error message => some (.error message, world)
          | .ok result =>
              some (.ok result, world.executing session statement result)
  | .commit => some (.ok (), { world with session := none })
  | .rollback => some ((), { world with session := none })

/-- The quiet server describes its role. -/
theorem quietRows_describe
    {statement : String}
    (own : statement ∈ ownStatements)
    (noLimit : statement ∉ limitStatements) :
    Describes textTools quietServer.role statement
      (quietRows statement) := by
  have inspects :
      statement = roleStatement ∨ statement = defaultStatement ∨
        statement = privilegeStatement := by
    rcases List.mem_append.mp own with inspection | limits
    · simpa [inspectionStatements] using inspection
    · exact absurd limits noLimit
  rcases inspects with rfl | rfl | rfl
  · have flags :
        quietRows roleStatement = [["f", "f", "f", "f", "f"]] := by
      simp [quietRows]
    rw [flags]
    exact .role rfl
  · have mode : quietRows defaultStatement = [["on"]] := by
      simp [quietRows, roleStatement_ne_default.symm]
    rw [mode]
    exact .default rfl
  · have privileges : quietRows privilegeStatement = [["f"]] := by
      simp [quietRows, roleStatement_ne_privilege.symm,
        defaultStatement_ne_privilege.symm]
    rw [privileges]
    exact .privileges rfl

/-- The quiet server is a PostgreSQL. -/
theorem serveQuietly_serves
    {world served : ReferenceWorld String}
    {request : PgRequest}
    {answer : PgAnswer String request}
    (answered : serveQuietly world request = some (answer, served)) :
    ServesReference textTools quietServer world request answer served := by
  cases request with
  | connect =>
      cases answered
      exact .connected world
  | setReadOnly =>
      obtain ⟨session, isOpen, same⟩ := Option.map_eq_some_iff.mp answered
      cases same
      exact .readOnly isOpen
  | execute statement =>
      obtain ⟨session, isOpen, rest⟩ := Option.bind_eq_some_iff.mp answered
      by_cases limits : statement ∈ limitStatements
      · simp only [if_pos limits] at rest
        cases rest
        exact .limited _ isOpen limits
      · by_cases own : statement ∈ ownStatements
        · simp only [if_neg limits, if_pos own] at rest
          cases rest
          exact .described [] isOpen (quietRows_describe own limits)
        · simp only [if_neg limits, if_neg own] at rest
          cases returned :
              quietServer.execute statement world.database with
          | error message =>
              rw [returned] at rest
              cases rest
              exact .failed world statement message
          | ok result =>
              rw [returned] at rest
              cases rest
              exact .queried isOpen own returned
  | commit =>
      cases answered
      exact .committed world
  | rollback =>
      cases answered
      exact .rolledBack world

/-- The reference database with these customers, before any connection. -/
def quietWorld (names : List String) : ReferenceWorld String where
  database := customersNamed names
  session := none
  executed := []

/-- The tool asked for the customers, with what it exchanges. -/
def askedQuietly (names : List String) :
    Option
      (List
          (Program.Exchange (ReferenceWorld String) PgRequest
            (PgAnswer String)) ×
        Program.Outcome String Json × ReferenceWorld String) :=
  (queryDatabaseTool sampleJsonTools textTools
      (sqlglotFor identifiersText identifiersQuery) "postgresql://db"
      identifiersText).record
    (fun world _ => world) serveQuietly (quietWorld names)

/-- What the tool exchanges with the quiet server is one of its executions. -/
theorem execution_of_askedQuietly
    {names : List String}
    {exchanges :
      List
        (Program.Exchange (ReferenceWorld String) PgRequest
          (PgAnswer String))}
    {outcome : Program.Outcome String Json}
    {final : ReferenceWorld String}
    (asked : askedQuietly names = some (exchanges, outcome, final)) :
    Program.Execution (referenceSurroundings textTools quietServer)
      (queryDatabaseTool sampleJsonTools textTools
        (sqlglotFor identifiersText identifiersQuery) "postgresql://db"
        identifiersText)
      (quietWorld names) exchanges outcome final :=
  Program.execution_of_record (fun _ _ => ⟨rfl, rfl⟩)
    (fun _ _ _ _ answered => serveQuietly_serves answered) asked

/--
Whatever PostgreSQL answers and others write: besides the statements of the tool
itself, at most the validated query is executed, and only in a session that is
readonly and has all four limits in force, of a role without attributes whose
transactions are readonly by default and which the statement of the tool reports
to have no privilege to write to a table of `public`.
-/
theorem readonly_query_guarded
    {json : JsonTools}
    {glot : Sqlglot}
    {refDbUrl query : String}
    {world final : ReferenceWorld Cell}
    {exchanges :
      List
        (Program.Exchange (ReferenceWorld Cell) PgRequest (PgAnswer Cell))}
    {outcome : Program.Outcome String Json}
    (execution :
      Program.Execution (referenceSurroundings tools server)
        (queryDatabaseTool json tools glot refDbUrl query) world exchanges
        outcome final)
    {exchange :
      Program.Exchange (ReferenceWorld Cell) PgRequest (PgAnswer Cell)}
    (exchanged : exchange ∈ exchanges)
    {statement : String}
    (executes : exchange.request = .execute statement) :
    statement ∈ ownStatements ∨
      ∃ validated,
        validateReadonlySql glot query = .ok validated ∧
          statement = validated.query ∧
          exchange.before.Guarded server := by
  have permitted :=
    (keeps_queryDatabaseTool refDbUrl world _ _ _ execution).1 exchange
      exchanged
  rw [executes] at permitted
  exact permitted

/-- The query for the customers runs in a guarded session. -/
theorem readonly_query_guarded_identifiers :
    ∃ (outcome : Program.Outcome String Json)
      (exchanges :
        List
          (Program.Exchange (ReferenceWorld String) PgRequest
            (PgAnswer String)))
      (final : ReferenceWorld String),
      Program.Execution (referenceSurroundings textTools quietServer)
          (queryDatabaseTool sampleJsonTools textTools
            (sqlglotFor identifiersText identifiersQuery)
            "postgresql://db" identifiersText)
          (quietWorld ["Ann"]) exchanges outcome final ∧
        ∃ exchange ∈ exchanges,
          exchange.request = .execute (identifiersText ++ " LIMIT 100") ∧
            exchange.before.Guarded quietServer := by
  have asked :
      (askedQuietly ["Ann"]).any
          (fun ended =>
            ended.1.any fun exchange =>
              decide
                (exchange.request =
                  .execute (identifiersText ++ " LIMIT 100"))) =
        true := by
    decide +kernel
  obtain ⟨⟨exchanges, outcome, final⟩, recorded, holds⟩ :=
    (Option.any_eq_true _ _).mp asked
  obtain ⟨exchange, exchanged, executes⟩ := List.any_eq_true.mp holds
  have execution := execution_of_askedQuietly recorded
  have isQuery := of_decide_eq_true executes
  rcases readonly_query_guarded execution exchanged isQuery with
    own | ⟨validated, accepted, same, guarded⟩
  · exact absurd own (by decide +kernel)
  · exact
      ⟨outcome, exchanges, final, execution, exchange, exchanged, isQuery,
        guarded⟩

/--
The tool raises only what `json.dumps` raises on its arguments or on its reply.
It returns the error of one of its two limits, where that limit is exceeded, or
the redaction of a reply within them; and a reply with rows has at most a hundred
of them, the first of those that the validated query returned in a state the
database was in when a guarded session executed it.
-/
theorem readonly_reply_bounded
    {json : JsonTools}
    {glot : Sqlglot}
    {refDbUrl query : String}
    {world final : ReferenceWorld Cell}
    {exchanges :
      List
        (Program.Exchange (ReferenceWorld Cell) PgRequest (PgAnswer Cell))}
    {outcome : Program.Outcome String Json}
    (execution :
      Program.Execution (referenceSurroundings tools server)
        (queryDatabaseTool json tools glot refDbUrl query) world exchanges
        outcome final) :
    (∀ message,
        outcome = .raised message →
        ToolRaises json tools query
          (fun reply => reply.Bounded glot server query final.executed)
          message) ∧
      ∀ value,
        outcome = .returned value →
        ToolReturns json tools query
          (fun reply => reply.Bounded glot server query final.executed)
          value := by
  have keeps :=
    (keeps_queryDatabaseTool refDbUrl world _ _ _ execution).2
  constructor
  · rintro message rfl
    exact keeps
  · rintro value rfl
    exact keeps

/-- The value that a call returned. -/
def returnedValue : Program.Outcome String Json → Option Json
  | .returned value => some value
  | _ => none

/-- An outcome with a value is such a return. -/
theorem returnedValue_eq_some
    {outcome : Program.Outcome String Json}
    {value : Json}
    (returned : returnedValue outcome = some value) :
    outcome = .returned value := by
  cases outcome with
  | returned other =>
      cases returned
      rfl
  | raised message =>
      cases returned
  | died =>
      cases returned

/-- What the tool replies about two customers. -/
def twoCustomersText : String :=
  "\x7b\"query\": \"" ++ identifiersText ++ " LIMIT 100\", " ++
    "\"rows\": [\x7b\"id\": \"0\"\x7d, \x7b\"id\": \"1\"\x7d], " ++
    "\"source\": \"reference_postgres\"\x7d"

/-- The customers are reported as the database has them. -/
theorem readonly_reply_bounded_identifiers :
    ∃ (value : Json)
      (exchanges :
        List
          (Program.Exchange (ReferenceWorld String) PgRequest
            (PgAnswer String)))
      (final : ReferenceWorld String),
      Program.Execution (referenceSurroundings textTools quietServer)
          (queryDatabaseTool sampleJsonTools textTools
            (sqlglotFor identifiersText identifiersQuery)
            "postgresql://db" identifiersText)
          (quietWorld ["Ann", "Bob"]) exchanges (.returned value) final ∧
        Json.dumps (fun _ => []) value = twoCustomersText ∧
        ToolReturns sampleJsonTools textTools identifiersText
          (fun reply =>
            reply.Bounded (sqlglotFor identifiersText identifiersQuery)
              quietServer identifiersText final.executed)
          value := by
  have asked :
      (askedQuietly ["Ann", "Bob"]).any
          (fun ended =>
            (returnedValue ended.2.1).any fun value =>
              decide
                (Json.dumps (fun _ => []) value = twoCustomersText)) =
        true := by
    decide +kernel
  obtain ⟨⟨exchanges, outcome, final⟩, recorded, holds⟩ :=
    (Option.any_eq_true _ _).mp asked
  obtain ⟨value, returned, isText⟩ := (Option.any_eq_true _ _).mp holds
  obtain rfl := returnedValue_eq_some returned
  have execution := execution_of_askedQuietly recorded
  exact
    ⟨value, exchanges, final, execution, of_decide_eq_true isText,
      (readonly_reply_bounded execution).2 value rfl⟩

end IncidentPilot
