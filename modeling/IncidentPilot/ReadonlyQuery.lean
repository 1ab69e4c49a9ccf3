import IncidentPilot.Library.Answers
import IncidentPilot.Library.Cleanup
import IncidentPilot.ReadonlyServer
import IncidentPilot.SqlConfidentiality

/-!
# The readonly database tool

`query_database_readonly` of `ops_readonly/server.py` inside `safe_tool`, as a
program that talks to PostgreSQL one statement at a time.  Any statement may
fail, and so may the connection and the commit.  The cells of a row are whatever
the driver returns.
-/

namespace IncidentPilot

/-- What a cursor holds after a statement; fetching without rows raises. -/
structure CursorResult (Cell : Type) where
  description : Option (List String)
  rows : Except String (List (List Cell))

/-- What the tool asks of the driver. -/
inductive PgRequest where
  | connect
  | setReadOnly
  | execute (statement : String)
  | commit
  | rollback
  deriving DecidableEq

/-- The answers to each request; an error is the text of an exception. -/
@[reducible] def PgAnswer (Cell : Type) : PgRequest → Type
  | .connect => Except String Unit
  | .setReadOnly => Except String Unit
  | .execute _ => Except String (CursorResult Cell)
  | .commit => Except String Unit
  | .rollback => Unit

/-- Programs that talk to PostgreSQL. -/
abbrev PgProgram (Cell : Type) :=
  Program PgRequest (PgAnswer Cell) String

/--
A value of Python that is returned to a client: a JSON value, another object with
what `json.dumps(default=str)` writes of it, or a list or a dictionary.
-/
inductive ReplyValue where
  | json (value : Json)
  | other (written : Json)
  | list (items : List ReplyValue)
  | dict (fields : List (String × ReplyValue))

mutual

/-- What `json.dumps(default=str)` writes of a value. -/
def ReplyValue.written : ReplyValue → Json
  | .json value => value
  | .other written => written
  | .list items => .array (writtenItems items)
  | .dict fields => .object (writtenFields fields)

/-- What is written of the items of a list. -/
def writtenItems : List ReplyValue → List Json
  | [] => []
  | value :: rest => value.written :: writtenItems rest

/-- What is written of the fields of a dictionary. -/
def writtenFields : List (String × ReplyValue) → List (String × Json)
  | [] => []
  | (key, value) :: rest => (key, value.written) :: writtenFields rest

end

mutual

/-- `redact`, which leaves objects that are no JSON values as they are. -/
def redactReply
    (json : JsonTools)
    (depth : Nat)
    (value : ReplyValue) : Json :=
  if 12 < depth then
    .string "[depth limit]"
  else
    match value with
    | .json value => redact json depth value
    | .other written => written
    | .list items => .array ((redactReplyItems json depth items).take 200)
    | .dict fields =>
        .object ((redactReplyFields json depth fields).take 200)

/-- The items of a list. -/
def redactReplyItems
    (json : JsonTools)
    (depth : Nat) : List ReplyValue → List Json
  | [] => []
  | value :: rest =>
      redactReply json (depth + 1) value ::
        redactReplyItems json depth rest

/-- The fields of a dictionary; secret ones lose their value. -/
def redactReplyFields
    (json : JsonTools)
    (depth : Nat) : List (String × ReplyValue) → List (String × Json)
  | [] => []
  | (key, value) :: rest =>
      (key,
        if secretField key = true ∧ key ∉ tokenCountKeys then
          .string "[REDACTED]"
        else
          redactReply json (depth + 1) value) ::
        redactReplyFields json depth rest

end

/-- What Python makes of the cells. -/
structure CellTools (Cell : Type) where
  truthy : Cell → Bool
  isOn : Cell → Bool
  value : Cell → ReplyValue

/-- The dictionaries that the tool returns. -/
inductive QueryReply (Cell : Type) where
  | invalid (error query : String)
  | failed (error query : String)
  | rows (query : String) (rows : List (List (String × Cell)))
  | unavailable (query : String)

variable {Cell : Type}

/-- The dictionary of a row. -/
def rowValue
    (tools : CellTools Cell)
    (row : List (String × Cell)) : ReplyValue :=
  .dict (row.map fun entry => (entry.1, tools.value entry.2))

/-- The dictionary of a reply. -/
def QueryReply.value (tools : CellTools Cell) : QueryReply Cell → ReplyValue
  | invalid error query =>
      .dict
        [("error", .json (.string error)), ("query", .json (.string query)),
          ("validated", .json (.bool false))]
  | failed error query =>
      .dict
        [("error", .json (.string error)), ("query", .json (.string query)),
          ("source", .json (.string "reference_postgres"))]
  | rows query found =>
      .dict
        [("query", .json (.string query)),
          ("rows", .list (found.map (rowValue tools))),
          ("source", .json (.string "reference_postgres"))]
  | unavailable query =>
      .dict
        [("error",
            .json
              (.string
                ("REFERENCE_DB_URL must point to the readonly " ++
                  "PostgreSQL account"))),
          ("query", .json (.string query)), ("rows", .list []),
          ("source", .json (.string "unavailable"))]

/-- The value of an answer, or its exception. -/
def pgHeard {Value : Type} : Except String Value → PgProgram Cell Value
  | .ok value => .done value
  | .error message => .raise message

/-- `cur.execute`, with what the cursor holds afterwards. -/
def executed (statement : String) : PgProgram Cell (CursorResult Cell) :=
  .ask (.execute statement) pgHeard

/-- `cur.fetchall()`. -/
def fetchAll (result : CursorResult Cell) :
    PgProgram Cell (List (List Cell)) :=
  pgHeard result.rows

/-- `cur.fetchone()`. -/
def fetchOne (result : CursorResult Cell) :
    PgProgram Cell (Option (List Cell)) :=
  fetchAll result >>= fun rows => .done rows.head?

/-- `row[0]`, for a row that may be `None`. -/
def firstCell : Option (List Cell) → PgProgram Cell Cell
  | none => .raise "'NoneType' object is not subscriptable"
  | some [] => .raise "tuple index out of range"
  | some (cell :: _) => .done cell

/-- The statement that asks for the attributes of the role. -/
def roleStatement : String :=
  "SELECT rolsuper, rolcreaterole, rolcreatedb, rolreplication, " ++
    "rolbypassrls FROM pg_roles WHERE rolname = current_user"

/-- The statement that asks whether transactions are readonly by default. -/
def defaultStatement : String :=
  "SHOW default_transaction_read_only"

/-- The statement that asks for privileges on whole tables of `public`. -/
def privilegeStatement : String :=
  "SELECT has_table_privilege(current_user, c.oid, " ++
    "'INSERT,UPDATE,DELETE,TRUNCATE,TRIGGER') FROM pg_class c " ++
    "JOIN pg_namespace n ON n.oid = c.relnamespace " ++
    "WHERE n.nspname = 'public' AND c.relkind IN ('r','p')"

/-- The limits that are set in the transaction of the query. -/
def limitStatements : List String :=
  ["SET statement_timeout = '5s'", "SET LOCAL lock_timeout = '1s'",
    "SET LOCAL search_path = pg_catalog, public",
    "SET LOCAL work_mem = '4MB'"]

/-- `any(row[0] for row in rows)`. -/
def anyFirst (tools : CellTools Cell) :
    List (List Cell) → PgProgram Cell Bool
  | [] => .done false
  | row :: rest =>
      firstCell (some row) >>= fun cell =>
        if tools.truthy cell = true then
          .done true
        else
          anyFirst tools rest

/-- `role is None or any(role) or cur.fetchone()[0] != "on"` raises. -/
def requireReadonly
    (tools : CellTools Cell)
    (role : Option (List Cell))
    (shown : CursorResult Cell) : PgProgram Cell Unit :=
  match role with
  | none => .raise "dedicated readonly database role required"
  | some flags =>
      if flags.any tools.truthy = true then
        .raise "dedicated readonly database role required"
      else
        fetchOne shown >>= fun row =>
          firstCell row >>= fun cell =>
            if tools.isOn cell = true then
              .done ()
            else
              .raise "dedicated readonly database role required"

/-- The role has no attributes, and its transactions are readonly. -/
def checkRole (tools : CellTools Cell) : PgProgram Cell Unit :=
  executed roleStatement >>= fun attributes =>
    fetchOne attributes >>= fun role =>
      executed defaultStatement >>= requireReadonly tools role

/-- The statement reports no table that the role may write to. -/
def checkPrivileges (tools : CellTools Cell) : PgProgram Cell Unit :=
  executed privilegeStatement >>= fun result =>
    fetchAll result >>= fun rows =>
      anyFirst tools rows >>= fun writes =>
        if writes = true then
          .raise "database role has write privileges"
        else
          .done ()

/-- The limits are set, one after the other. -/
def setLimits : List String → PgProgram Cell Unit
  | [] => .done ()
  | statement :: rest =>
      executed statement >>= fun _ => setLimits rest

/-- `dict(entries)`: a later value of a key takes the place of an earlier. -/
def dictOf (entries : List (String × Cell)) : List (String × Cell) :=
  entries.foldl
    (fun dict entry =>
      if dict.any (fun known => known.1 = entry.1) = true then
        dict.map fun known => if known.1 = entry.1 then entry else known
      else
        dict ++ [entry])
    []

/-- The rows of a reply: `cur.fetchmany(100)` by the names of the columns. -/
def replyRows
    (columns : List String)
    (rows : List (List Cell)) : List (List (String × Cell)) :=
  (rows.take 100).map fun row => dictOf (columns.zip row)

/-- The body of the two `with` statements. -/
def inSession
    (tools : CellTools Cell)
    (query : String) : PgProgram Cell (QueryReply Cell) := do
  checkRole tools
  checkPrivileges tools
  setLimits limitStatements
  let result ← executed query
  match result.description with
  | none => return .rows query []
  | some columns => do
      let rows ← fetchAll result
      return .rows query (replyRows columns rows)

/--
`with psycopg.connect(...)`: what its body returns is committed, and an error of
the body is raised again after a rollback that does not fail.
-/
def withConnection {Value : Type}
    (body : PgProgram Cell Value) : PgProgram Cell Value :=
  .ask .connect fun connected =>
    pgHeard connected >>= fun _ =>
      .ask .setReadOnly fun isSet =>
        ((pgHeard isSet >>= fun _ => body) >>= fun value =>
            .done (Except.ok value)).handle
          (fun message => .done (.error message)) >>= fun ended =>
            match ended with
            | .ok value =>
                .ask .commit fun committed =>
                  pgHeard committed >>= fun _ => .done value
            | .error message => .ask .rollback fun _ => .raise message

/-- `query_database_readonly`, given `REFERENCE_DB_URL`. -/
def queryDatabaseReadonly
    (tools : CellTools Cell)
    (glot : Sqlglot)
    (refDbUrl query : String) : PgProgram Cell (QueryReply Cell) :=
  match validateReadonlySql glot query with
  | .error message => .done (.invalid message query)
  | .ok validated =>
      if startsWith refDbUrl "postgresql" = true then
        (withConnection (inSession tools validated.query)).handle
          fun message => .done (.failed message validated.query)
      else
        .done (.unavailable validated.query)

/-- The arguments of a call of the tool. -/
def queryArguments (query : String) : Json :=
  keywordArguments [("query", .string query)]

/-- The end of `safe_tool`: the limit on the reply, and its redaction. -/
def QueryReply.passedOn
    (json : JsonTools)
    (tools : CellTools Cell)
    (reply : QueryReply Cell) : Except String Json :=
  match toolOutputLimit (json.dumps (reply.value tools).written) with
  | .error failure => failure.result .object
  | .ok () => .ok (redactReply json 0 (reply.value tools))

/-- `query_database_readonly` as clients call it, inside `safe_tool`. -/
def queryDatabaseTool
    (json : JsonTools)
    (tools : CellTools Cell)
    (glot : Sqlglot)
    (refDbUrl query : String) : PgProgram Cell Json :=
  match toolInputLimit json (queryArguments query) with
  | .error failure => pgHeard (failure.result .object)
  | .ok () =>
      queryDatabaseReadonly tools glot refDbUrl query >>= fun reply =>
        pgHeard (reply.passedOn json tools)

/--
What the tool asks of the role that connects: its attributes, the default mode of
its transactions, and for each table of the schema `public` whether it has a
privilege of the table as a whole to write.  Other privileges, such as those of
columns, views or other schemas, are not asked for.
-/
structure PgRole where
  attributes : List Bool
  readOnlyByDefault : Bool
  writesPublicTables : List Bool

/-- A role that passes the checks of the tool. -/
structure PgRole.PassesChecks (role : PgRole) : Prop where
  plain : ∀ flag ∈ role.attributes, flag = false
  readOnly : role.readOnlyByDefault = true
  unprivileged : ∀ table ∈ role.writesPublicTables, table = false

/-- A connection: the mode of its transactions, and what was set in them. -/
structure PgSession where
  readOnly : Bool
  settings : List String
  deriving Repr, DecidableEq

/-- A statement that was executed: on which database, and what it returned. -/
structure PgExecuted (Cell : Type) where
  statement : String
  database : Sql.Database Cell
  result : CursorResult Cell

/--
The reference database and the connection of the tool to it; `executed` is a
history variable, of the statements of the tool.
-/
structure ReferenceWorld (Cell : Type) where
  database : Sql.Database Cell
  session : Option PgSession
  executed : List (PgExecuted Cell)

namespace ReferenceWorld

/-- A statement was executed in the session. -/
def executing
    (world : ReferenceWorld Cell)
    (session : PgSession)
    (statement : String)
    (result : CursorResult Cell) : ReferenceWorld Cell :=
  { world with
    session := some session
    executed := ⟨statement, world.database, result⟩ :: world.executed }

end ReferenceWorld

/-- PostgreSQL: the role of the tool, and what other statements return. -/
structure ReferenceServer (Cell : Type) where
  role : PgRole
  execute : String → Sql.Database Cell → Except String (CursorResult Cell)

/-- The questions of the tool about its role. -/
def inspectionStatements : List String :=
  [roleStatement, defaultStatement, privilegeStatement]

/-- The statements of the tool itself. -/
def ownStatements : List String :=
  inspectionStatements ++ limitStatements

/-- What PostgreSQL answers about the role. -/
inductive Describes (tools : CellTools Cell) (role : PgRole) :
    String → List (List Cell) → Prop where
  | unknownRole : Describes tools role roleStatement []
  | role
      {flags : List Cell}
      (attributes : flags.map tools.truthy = role.attributes) :
      Describes tools role roleStatement [flags]
  | default
      {cell : Cell}
      (on : tools.isOn cell = role.readOnlyByDefault) :
      Describes tools role defaultStatement [[cell]]
  | privileges
      {rows : List (List Cell)}
      (writes :
        rows.map (fun row => row.head?.map tools.truthy) =
          role.writesPublicTables.map some) :
      Describes tools role privilegeStatement rows

/-- How PostgreSQL and its driver answer. -/
inductive ServesReference
    (tools : CellTools Cell)
    (server : ReferenceServer Cell) :
    ReferenceWorld Cell → (request : PgRequest) → PgAnswer Cell request →
      ReferenceWorld Cell → Prop where
  | connected (world : ReferenceWorld Cell) :
      ServesReference tools server world .connect (.ok ())
        { world with session := some ⟨false, []⟩ }
  | refused (world : ReferenceWorld Cell) (message : String) :
      ServesReference tools server world .connect (.error message) world
  | readOnly
      {world : ReferenceWorld Cell}
      {session : PgSession}
      (isOpen : world.session = some session) :
      ServesReference tools server world .setReadOnly (.ok ())
        { world with session := some { session with readOnly := true } }
  | writable (world : ReferenceWorld Cell) (message : String) :
      ServesReference tools server world .setReadOnly (.error message)
        world
  | failed
      (world : ReferenceWorld Cell)
      (statement message : String) :
      ServesReference tools server world (.execute statement)
        (.error message) world
  | described
      {world : ReferenceWorld Cell}
      {session : PgSession}
      {statement : String}
      {rows : List (List Cell)}
      (columns : List String)
      (isOpen : world.session = some session)
      (describes : Describes tools server.role statement rows) :
      ServesReference tools server world (.execute statement)
        (.ok ⟨some columns, .ok rows⟩)
        (world.executing session statement ⟨some columns, .ok rows⟩)
  | limited
      {world : ReferenceWorld Cell}
      {session : PgSession}
      {statement : String}
      (result : CursorResult Cell)
      (isOpen : world.session = some session)
      (limits : statement ∈ limitStatements) :
      ServesReference tools server world (.execute statement)
        (.ok result)
        (world.executing
          { session with settings := session.settings ++ [statement] }
          statement result)
  | queried
      {world : ReferenceWorld Cell}
      {session : PgSession}
      {statement : String}
      {result : CursorResult Cell}
      (isOpen : world.session = some session)
      (other : statement ∉ ownStatements)
      (returned :
        server.execute statement world.database = .ok result) :
      ServesReference tools server world (.execute statement)
        (.ok result) (world.executing session statement result)
  | committed (world : ReferenceWorld Cell) :
      ServesReference tools server world .commit (.ok ())
        { world with session := none }
  | uncommitted (world : ReferenceWorld Cell) (message : String) :
      ServesReference tools server world .commit (.error message) world
  | rolledBack (world : ReferenceWorld Cell) :
      ServesReference tools server world .rollback ()
        { world with session := none }

/-- Others write to the database, but not in the session of the tool. -/
def referenceSurroundings
    (tools : CellTools Cell)
    (server : ReferenceServer Cell) :
    Program.Surroundings (ReferenceWorld Cell) PgRequest
      (PgAnswer Cell) where
  serves := ServesReference tools server
  interferes before after :=
    after.session = before.session ∧ after.executed = before.executed

end IncidentPilot
