import IncidentPilot.Library.SqlSecrecy
import IncidentPilot.SandboxPatch

/-!
# Read-only queries

`tools/sql_guard.py`.  The parser and the generator of `sqlglot` are parameters;
the validator looks at the nodes of the tree that the parser returns.  In which
order it visits them decides only which complaint it raises.
-/

namespace IncidentPilot

/-- `ALLOWED_SCHEMA`. -/
def allowedSchema : List (String × List String) :=
  [("orders", ["id", "customer_id", "status", "total_cents", "created_at"]),
    ("order_items", ["id", "order_id", "sku", "qty", "price_cents"]),
    ("customers", ["id"])]

/-- `ALLOWED_SCHEMA.get(table, set())`. -/
def allowedColumns (table : String) : List String :=
  (allowedSchema.lookup table).getD []

/-- `ALLOWED_FUNCTIONS`. -/
def allowedFunctions : List String :=
  ["COUNT", "SUM", "MIN", "MAX", "AVG", "COALESCE", "NULLIF", "CAST",
    "LOWER", "UPPER", "LENGTH", "ABS"]

/-- `FORBIDDEN_FUNCTIONS`. -/
def forbiddenFunctions : List String :=
  ["pg_sleep", "pg_read_file", "pg_read_binary_file", "pg_ls_dir",
    "pg_stat_file", "dblink", "dblink_exec", "lo_import", "lo_export",
    "set_config", "current_setting"]

/-- The data types a cast may name. -/
def allowedTypes : List String :=
  ["INT", "BIGINT", "SMALLINT", "TEXT", "VARCHAR", "BOOLEAN", "FLOAT",
    "DOUBLE", "DECIMAL", "TIMESTAMP", "TIMESTAMPTZ", "DATE"]

/-- The keywords of `FORBIDDEN_KEYWORDS` that are in `hard_forbidden`. -/
def hardForbidden : List String :=
  ["insert", "update", "delete", "drop", "alter", "truncate", "create",
    "grant", "revoke"]

/-- A node of a tree, as far as the validator reads it. -/
inductive SqlNode where
  | query (type : String) (intoOrLocks : Bool)
  | column (name table : String)
  | table (name db catalog aliasOrName : String)
  | star (underCount : Bool)
  | withClause
  | cte
  | function (sqlName : String)
  | anonymous (name : String)
  | dataType (value : String)
  | dot (holdsFunction : Bool)
  | limit (literal : Option Int)
  | forbidden (type : String)
  | other (type : String)
  deriving Repr, DecidableEq

/-- Whether a node is an instance of `exp.Func`. -/
def SqlNode.isFunction : SqlNode → Bool
  | .function _ => true
  | .anonymous _ => true
  | _ => false

/-- The nodes of an identifier. -/
def identifierNodes (_ : Sql.Identifier) : List SqlNode :=
  [.other "Identifier"]

/-- The nodes of an alias of a table or subquery. -/
def aliasNodes
    (aliasName : Option Sql.Identifier)
    (columns : List Sql.Identifier) : List SqlNode :=
  match aliasName with
  | none => []
  | some name =>
      .other "TableAlias" :: identifierNodes name ++
        columns.flatMap identifierNodes

/-- The nodes of a table reference. -/
def tableNodes (reference : Sql.TableReference) : List SqlNode :=
  [.table reference.name.name reference.db reference.catalog
      (reference.aliasName.getD reference.name).name] ++
    identifierNodes reference.name ++
    aliasNodes reference.aliasName reference.columns

/-- The nodes of an operator on arguments with these nodes. -/
def operatorNodes
    (operator : Sql.Operator)
    (args : List SqlNode) : List SqlNode :=
  match operator with
  | .plain text => .other text :: args
  | .function name => .function name :: args
  | .anonymous name => .anonymous name :: args
  | .cast type => .function "CAST" :: .dataType type :: args
  | .dot field =>
      .dot (args.any SqlNode.isFunction) ::
        identifierNodes ⟨field, false⟩ ++ args

/-- The nodes of the clauses of a query. -/
def clauseNodes (type : String) (clauses : Sql.Clauses) : List SqlNode :=
  .query type (clauses.into || clauses.locks) ::
    (if clauses.ctes = true then [.withClause, .cte] else []) ++
    match clauses.limit with
    | .none => []
    | .literal count => [.limit (some count)]
    | .expression => [.limit none]
    | .fetch => [.other "Fetch"]

/-- The nodes of the columns that a join merges. -/
def mergingNodes : Sql.Merging → List SqlNode
  | .none => []
  | .using names => names.flatMap identifierNodes
  | .natural => []

mutual

/-- `tree.walk()` of a query. -/
def queryNodes : Sql.Query → List SqlNode
  | .select clauses projections source condition groupBy having orderBy
      bounds =>
      clauseNodes "Select" clauses ++ exprsNodes projections ++
        sourceNodes source ++ exprsNodes condition ++
        exprsNodes groupBy ++ exprsNodes having ++ exprsNodes orderBy ++
        exprsNodes bounds
  | .setOperation clauses kind left right orderBy bounds =>
      clauseNodes kind clauses ++ queryNodes left ++ queryNodes right ++
        exprsNodes orderBy ++ exprsNodes bounds
  | .nested clauses query orderBy bounds =>
      clauseNodes "Subquery" clauses ++ queryNodes query ++
        exprsNodes orderBy ++ exprsNodes bounds

/-- `tree.walk()` of an expression. -/
def exprNodes : Sql.Expr → List SqlNode
  | .column table name =>
      .column name.name ((table.map Sql.Identifier.name).getD "") ::
        identifierNodes name ++ table.toList.flatMap identifierNodes
  | .star => [.star false]
  | .countAll => [.function "COUNT", .star true]
  | .aliased expr name =>
      .other "Alias" :: exprNodes expr ++ identifierNodes name
  | .apply operator args => operatorNodes operator (exprsNodes args)
  | .collective operator args => operatorNodes operator (exprsNodes args)
  | .subquery operator args query =>
      operatorNodes operator (exprsNodes args ++ queryNodes query)

/-- `tree.walk()` of expressions. -/
def exprsNodes : Sql.Exprs → List SqlNode
  | .nil => []
  | .cons head tail => exprNodes head ++ exprsNodes tail

/-- `tree.walk()` of a FROM list. -/
def sourceNodes : Sql.From → List SqlNode
  | .nothing => []
  | .table reference => tableNodes reference
  | .derived query aliasName columns =>
      .other "Subquery" :: queryNodes query ++
        aliasNodes aliasName columns
  | .join kind left right merging condition =>
      sourceNodes left ++ [.other kind] ++ sourceNodes right ++
        mergingNodes merging ++ exprsNodes condition
  | .lateral kind left query aliasName columns condition =>
      sourceNodes left ++ [.other kind, .other "Lateral"] ++
        queryNodes query ++ aliasNodes aliasName columns ++
        exprsNodes condition

end

/-- A parsed statement: a query, or something else with its nodes. -/
inductive Statement where
  | query (tree : Sql.Query)
  | other (type : String) (nodes : List SqlNode)

/-- The nodes of a statement. -/
def Statement.nodes : Statement → List SqlNode
  | .query tree => queryNodes tree
  | .other _ nodes => nodes

/-- The clauses of a query. -/
def queryClauses : Sql.Query → Sql.Clauses
  | .select clauses _ _ _ _ _ _ _ => clauses
  | .setOperation clauses _ _ _ _ _ => clauses
  | .nested clauses _ _ _ => clauses

/-- `type(tree).__name__` of a query. -/
def queryType : Sql.Query → String
  | .select .. => "Select"
  | .setOperation _ kind _ _ _ _ => kind
  | .nested .. => "Subquery"

/-- The names of `ALLOWED_STATEMENT_TYPES`. -/
def allowedStatementTypes : List String :=
  ["Select", "Union", "Except", "Intersect"]

/-- The query of a statement whose type is allowed. -/
def Statement.allowed : Statement → Except String Sql.Query
  | .query tree =>
      let type :=
        match tree with
        | .nested _ inner _ _ => queryType inner
        | outermost => queryType outermost
      if allowedStatementTypes.contains type = true then
        .ok tree
      else
        .error ("statement type not allowed: " ++ queryType tree)
  | .other type _ => .error ("statement type not allowed: " ++ type)

/-- `sqlglot` for PostgreSQL, and the case mappings of Python. -/
structure Sqlglot where
  parse : String → Except String (List (Option Statement))
  limit : Sql.Query → Sql.Query
  sql : Sql.Query → String
  lower : String → String
  upper : String → String

/-- The tables among the nodes, by alias or name. -/
def tableNames (nodes : List SqlNode) : List (String × String) :=
  nodes.filterMap fun node =>
    match node with
    | .table name _ _ aliasOrName => some (aliasOrName, name)
    | _ => none

/-- The complaint about a table. -/
def tableError : SqlNode → Option String
  | .table name db catalog _ =>
      if catalog ≠ "" ∨ (db ≠ "" ∧ db ≠ "public") ∨
          allowedSchema.lookup name = none then
        some "table or schema is not allowlisted"
      else
        none
  | _ => none

/-- The columns a reference may name; the last table of an alias counts. -/
def columnsFor
    (tables : List (String × String))
    (table : String) : List String :=
  if table = "" then
    tables.flatMap fun entry => allowedColumns entry.2
  else
    ((tables.reverse.lookup table).map allowedColumns).getD []

/-- The complaint about a column. -/
def columnError
    (tables : List (String × String)) : SqlNode → Option String
  | .column name table =>
      if (columnsFor tables table).contains name = true then
        none
      else
        some "unknown or forbidden column"
  | _ => none

/-- The complaint about a star. -/
def starError : SqlNode → Option String
  | .star underCount =>
      if underCount = true then
        none
      else
        some "wildcard projections are forbidden"
  | _ => none

/-- The complaint about any other node. -/
def nodeError (glot : Sqlglot) : SqlNode → Option String
  | .forbidden type => some ("forbidden statement node: " ++ type)
  | .query _ intoOrLocks =>
      if intoOrLocks = true then
        some "SELECT INTO or locking SELECT is forbidden"
      else
        none
  | .dot holdsFunction =>
      if holdsFunction = true then
        some "schema-qualified functions are forbidden"
      else
        none
  | .dataType value =>
      if allowedTypes.contains value = true then
        none
      else
        some "cast type is not allowlisted"
  | .function sqlName =>
      if allowedFunctions.contains (glot.upper sqlName) = true then
        none
      else
        some ("function not allowlisted: " ++ glot.upper sqlName)
  | .anonymous name =>
      if allowedFunctions.contains (glot.upper name) = false then
        some ("function not allowlisted: " ++ glot.upper name)
      else if forbiddenFunctions.contains (glot.lower name) = true then
        some ("forbidden function: " ++ glot.lower name)
      else
        none
  | _ => none

/-- The complaint about a limit. -/
def limitError : SqlNode → Option String
  | .limit (some count) =>
      if 1 ≤ count ∧ count ≤ 100 then
        none
      else
        some "LIMIT must be an integer between 1 and 100"
  | .limit none => some "LIMIT must be an integer between 1 and 100"
  | _ => none

/-- Whether a node is a table. -/
def SqlNode.isTable : SqlNode → Bool
  | .table .. => true
  | _ => false

/-- Whether a node belongs to a common table expression. -/
def SqlNode.isCte : SqlNode → Bool
  | .withClause => true
  | .cte => true
  | _ => false

/-- `raise` unless there is no complaint. -/
def raiseComplaint : Option String → Except String Unit
  | none => .ok ()
  | some message => .error message

/-- The complaint about the text of a query. -/
def textError (glot : Sqlglot) (query : String) : Option String :=
  if query.toList.all isSpace = true then
    some "empty query"
  else if 8192 < query.length then
    some "query too long"
  else
    let stripped := " ".intercalate (words (glot.lower query))
    hardForbidden.findSome? fun keyword =>
      if hasInfix (" " ++ stripped ++ " ") (" " ++ keyword ++ " ") = true ∨
          startsWith stripped (keyword ++ " ") = true then
        some ("forbidden keyword: " ++ keyword)
      else
        none

/-- `sqlglot.parse`, and exactly one statement. -/
def parseStatement
    (glot : Sqlglot)
    (query : String) : Except String Statement :=
  match glot.parse query with
  | .error message => .error ("sql parse error: " ++ message)
  | .ok [] => .error "no statements parsed"
  | .ok [none] => .error "empty statement"
  | .ok [some tree] => .ok tree
  | .ok _ => .error "multiple statements are not allowed"

/-- The checks of the nodes of a tree, in the order of the source. -/
def nodesError (glot : Sqlglot) (nodes : List SqlNode) : Option String :=
  if 200 < nodes.length then
    some "query too complex"
  else if nodes.any SqlNode.isCte = true then
    some "CTE queries are unsupported"
  else if 4 < (nodes.filter SqlNode.isTable).length then
    some "too many table references"
  else
    (nodes.findSome? tableError).or
      ((nodes.findSome? (columnError (tableNames nodes))).or
        ((nodes.findSome? starError).or
          (nodes.findSome? (nodeError glot))))

/-- What `validate_readonly_sql` returns. -/
structure SafeQuery where
  statementType : String
  query : String
  deriving Repr, DecidableEq

/-- The tree with its limit. -/
def boundedQuery (glot : Sqlglot) (query : Sql.Query) : Sql.Query :=
  if (queryClauses query).limit = .none then glot.limit query else query

/-- `validate_readonly_sql`. -/
def validateReadonlySql
    (glot : Sqlglot)
    (query : String) : Except String SafeQuery := do
  raiseComplaint (textError glot query)
  let tree ← parseStatement glot query
  raiseComplaint (nodesError glot tree.nodes)
  let found ← tree.allowed
  raiseComplaint (tree.nodes.findSome? limitError)
  .ok
    { statementType := queryType found
      query := glot.sql (boundedQuery glot found) }

end IncidentPilot
