import IncidentPilot.Library.SqlDistinction
import IncidentPilot.SqlGuard

/-!
# Column confidentiality

The validator reads every column reference, so that an accepted query does not
name `customers.name`.  It does not read the columns that a join merges, the new
names of a column alias list, or the names that stand for whole rows: a query
that reaches the hidden column in one of these ways is accepted all the same.
-/

namespace IncidentPilot

/-- The tables of the reference database. -/
def referenceColumns : String → Option (List String)
  | "orders" =>
      some ["id", "customer_id", "status", "total_cents", "created_at"]
  | "order_items" => some ["id", "order_id", "sku", "qty", "price_cents"]
  | "customers" => some ["id", "name"]
  | _ => none

/-- The reference database hides what the allowed schema does not list. -/
def referenceSchema : Sql.Schema where
  columns := referenceColumns
  hidden table column := !(allowedColumns table).contains column

/-- Two states of the database agree on the columns of the allowed schema. -/
def AgreesOnAllowedSchema
    {Value : Type}
    (left right : Sql.Database Value) : Prop :=
  ∀ table columns,
    allowedSchema.lookup table = some columns →
    List.Forall₂
      (fun (row other : String → Value) =>
        ∀ column ∈ columns, row column = other column)
      (left table) (right table)

/--
PostgreSQL executes the text that `sqlglot` generates for a parsed query as the
query, and `.limit(100)` returns the first hundred of its rows.
-/
structure Mirrors
    {Value Error : Type}
    (engine : Sql.Engine Value Error)
    (glot : Sqlglot)
    (execute :
      String → Sql.Database Value → Except Error (Sql.Rows Value))
    (query : Sql.Query) : Prop where
  generated :
    ∀ database,
      execute (glot.sql query) database =
        query.run engine referenceSchema database
  limited :
    ∀ database,
      execute (glot.sql (glot.limit query)) database =
        (query.run engine referenceSchema database).map (List.take 100)

/-- A disclosure that uses another name than the hidden column's own. -/
def bypasses : Sql.Disclosure → Bool
  | .column name => decide (name ≠ "name")
  | .row _ => true
  | .join _ => true
  | .star => false

/-- No place of a query reaches a hidden column past the validator. -/
def Discreet (query : Sql.Query) : Prop :=
  ∀ disclosure ∈ query.disclosures referenceSchema [],
    bypasses disclosure = false

instance (query : Sql.Query) : Decidable (Discreet query) :=
  inferInstanceAs (Decidable (∀ disclosure ∈ _, _))

/-- The nodes show a disclosure, if it is one that the validator looks for. -/
def Shows (nodes : List SqlNode) : Sql.Disclosure → Prop
  | .column key =>
      ∃ (name : Sql.Identifier) (table : String),
        .column name.name table ∈ nodes ∧ name.key = key
  | .star => .star false ∈ nodes
  | .row _ => True
  | .join _ => True

/-- More nodes show as much. -/
theorem Shows.mono
    {nodes more : List SqlNode}
    {disclosure : Sql.Disclosure}
    (shows : Shows nodes disclosure)
    (included : nodes ⊆ more) :
    Shows more disclosure := by
  cases disclosure with
  | column key =>
      obtain ⟨name, table, member, same⟩ := shows
      exact ⟨name, table, included member, same⟩
  | row aliasName =>
      trivial
  | join name =>
      trivial
  | star =>
      exact included shows

/-- The nodes of the arguments are nodes of an operator. -/
theorem subset_operatorNodes
    (operator : Sql.Operator)
    (args : List SqlNode) :
    args ⊆ operatorNodes operator args := by
  intro node member
  cases operator <;> simp [operatorNodes, member]

/-- The nodes of the parts of a SELECT are nodes of it. -/
theorem subset_selectNodes
    (clauses : Sql.Clauses)
    (projections : Sql.Exprs)
    (source : Sql.From)
    (condition groupBy having orderBy bounds : Sql.Exprs) :
    let nodes :=
      queryNodes
        (.select clauses projections source condition groupBy having
          orderBy bounds)
    sourceNodes source ⊆ nodes ∧ exprsNodes projections ⊆ nodes ∧
      exprsNodes condition ⊆ nodes ∧ exprsNodes groupBy ⊆ nodes ∧
      exprsNodes having ⊆ nodes ∧ exprsNodes orderBy ⊆ nodes ∧
      exprsNodes bounds ⊆ nodes := by
  refine ⟨?_, ?_, ?_, ?_, ?_, ?_, ?_⟩
  all_goals
    intro node member
    simp [queryNodes, member]

/-- The nodes of the parts of a set operation are nodes of it. -/
theorem subset_setOperationNodes
    (clauses : Sql.Clauses)
    (kind : String)
    (left right : Sql.Query)
    (orderBy bounds : Sql.Exprs) :
    let nodes :=
      queryNodes (.setOperation clauses kind left right orderBy bounds)
    queryNodes left ⊆ nodes ∧ queryNodes right ⊆ nodes ∧
      exprsNodes orderBy ⊆ nodes ∧ exprsNodes bounds ⊆ nodes := by
  refine ⟨?_, ?_, ?_, ?_⟩
  all_goals
    intro node member
    simp [queryNodes, member]

/-- The nodes of the parts of a query in brackets are nodes of it. -/
theorem subset_nestedNodes
    (clauses : Sql.Clauses)
    (query : Sql.Query)
    (orderBy bounds : Sql.Exprs) :
    let nodes := queryNodes (.nested clauses query orderBy bounds)
    queryNodes query ⊆ nodes ∧ exprsNodes orderBy ⊆ nodes ∧
      exprsNodes bounds ⊆ nodes := by
  refine ⟨?_, ?_, ?_⟩
  all_goals
    intro node member
    simp [queryNodes, member]

/-- The nodes of an expression are nodes of it under an alias. -/
theorem subset_aliasedNodes
    (expr : Sql.Expr)
    (name : Sql.Identifier) :
    exprNodes expr ⊆ exprNodes (.aliased expr name) := by
  intro node member
  simp [exprNodes, member]

/-- The nodes of a query are nodes of it as a table. -/
theorem subset_derivedNodes
    (query : Sql.Query)
    (aliasName : Option Sql.Identifier)
    (columns : List Sql.Identifier) :
    queryNodes query ⊆ sourceNodes (.derived query aliasName columns) := by
  intro node member
  simp [sourceNodes, member]

/-- The nodes of the parts of a join are nodes of it. -/
theorem subset_joinNodes
    (kind : String)
    (left right : Sql.From)
    (merging : Sql.Merging)
    (condition : Sql.Exprs) :
    let nodes := sourceNodes (.join kind left right merging condition)
    sourceNodes left ⊆ nodes ∧ sourceNodes right ⊆ nodes ∧
      exprsNodes condition ⊆ nodes := by
  refine ⟨?_, ?_, ?_⟩
  all_goals
    intro node member
    simp [sourceNodes, member]

/-- The nodes of the parts of a lateral join are nodes of it. -/
theorem subset_lateralNodes
    (kind : String)
    (left : Sql.From)
    (query : Sql.Query)
    (aliasName : Option Sql.Identifier)
    (columns : List Sql.Identifier)
    (condition : Sql.Exprs) :
    let nodes :=
      sourceNodes (.lateral kind left query aliasName columns condition)
    sourceNodes left ⊆ nodes ∧ queryNodes query ⊆ nodes ∧
      exprsNodes condition ⊆ nodes := by
  refine ⟨?_, ?_, ?_⟩
  all_goals
    intro node member
    simp [sourceNodes, member]

/-- A column reference is shown. -/
theorem columnDisclosures_shown
    {shapes : List Sql.Shape}
    {table : Option Sql.Identifier}
    {name : Sql.Identifier}
    {disclosure : Sql.Disclosure}
    (member : disclosure ∈ Sql.columnDisclosures shapes table name) :
    Shows (exprNodes (.column table name)) disclosure := by
  simp only [Sql.columnDisclosures] at member
  split at member
  · split at member
    · obtain rfl := List.mem_singleton.mp member
      trivial
    · obtain rfl := List.mem_singleton.mp member
      exact ⟨name, _, List.mem_cons_self, rfl⟩
  · cases member

/-- A star is shown. -/
theorem starDisclosures_shown
    {shapes : List Sql.Shape}
    {disclosure : Sql.Disclosure}
    (member : disclosure ∈ Sql.starDisclosures shapes) :
    Shows (exprNodes .star) disclosure := by
  unfold Sql.starDisclosures at member
  split at member
  · cases member
  · split at member
    · obtain rfl := List.mem_singleton.mp member
      exact List.mem_singleton_self _
    · cases member

mutual

/-- The disclosures of a query are shown by its nodes. -/
theorem queryDisclosures_shown
    {shapes : List Sql.Shape}
    {disclosure : Sql.Disclosure} :
    (query : Sql.Query) →
      disclosure ∈ query.disclosures referenceSchema shapes →
      Shows (queryNodes query) disclosure
  | .select clauses projections source condition groupBy having orderBy
      bounds, member => by
      obtain
        ⟨ofSource, ofProjections, ofCondition, ofGroupBy, ofHaving,
          ofOrderBy, ofBounds⟩ :=
        subset_selectNodes clauses projections source condition groupBy
          having orderBy bounds
      simp only [Sql.Query.disclosures, List.mem_append] at member
      rcases member with
        (((((inSource | inProjections) | inCondition) | inGroupBy) |
          inHaving) | inOrderBy) | inBounds
      · exact (sourceDisclosures_shown source inSource).mono ofSource
      · exact
          (exprsDisclosures_shown projections inProjections).mono
            ofProjections
      · exact (exprsDisclosures_shown condition inCondition).mono ofCondition
      · exact (exprsDisclosures_shown groupBy inGroupBy).mono ofGroupBy
      · exact (exprsDisclosures_shown having inHaving).mono ofHaving
      · exact (exprsDisclosures_shown orderBy inOrderBy).mono ofOrderBy
      · exact (exprsDisclosures_shown bounds inBounds).mono ofBounds
  | .setOperation clauses kind left right orderBy bounds, member => by
      obtain ⟨ofLeft, ofRight, ofOrderBy, ofBounds⟩ :=
        subset_setOperationNodes clauses kind left right orderBy bounds
      simp only [Sql.Query.disclosures, List.mem_append] at member
      rcases member with ((inLeft | inRight) | inOrderBy) | inBounds
      · exact (queryDisclosures_shown left inLeft).mono ofLeft
      · exact (queryDisclosures_shown right inRight).mono ofRight
      · exact (exprsDisclosures_shown orderBy inOrderBy).mono ofOrderBy
      · exact (exprsDisclosures_shown bounds inBounds).mono ofBounds
  | .nested clauses query orderBy bounds, member => by
      obtain ⟨ofQuery, ofOrderBy, ofBounds⟩ :=
        subset_nestedNodes clauses query orderBy bounds
      simp only [Sql.Query.disclosures, List.mem_append] at member
      rcases member with (inQuery | inOrderBy) | inBounds
      · exact (queryDisclosures_shown query inQuery).mono ofQuery
      · exact (exprsDisclosures_shown orderBy inOrderBy).mono ofOrderBy
      · exact (exprsDisclosures_shown bounds inBounds).mono ofBounds

/-- So are those of an expression. -/
theorem exprDisclosures_shown
    {shapes : List Sql.Shape}
    {disclosure : Sql.Disclosure} :
    (expr : Sql.Expr) →
      disclosure ∈ expr.disclosures referenceSchema shapes →
      Shows (exprNodes expr) disclosure
  | .column table name, member => columnDisclosures_shown member
  | .star, member => starDisclosures_shown member
  | .countAll, member => by cases member
  | .aliased expr name, member =>
      (exprDisclosures_shown expr member).mono
        (subset_aliasedNodes expr name)
  | .apply operator args, member =>
      (exprsDisclosures_shown args member).mono
        (subset_operatorNodes operator _)
  | .collective operator args, member =>
      (exprsDisclosures_shown args member).mono
        (subset_operatorNodes operator _)
  | .subquery operator args query, member => by
      rcases List.mem_append.mp member with inArgs | inQuery
      · exact
          (exprsDisclosures_shown args inArgs).mono
            (List.Subset.trans (List.subset_append_left _ _)
              (subset_operatorNodes operator _))
      · exact
          (queryDisclosures_shown query inQuery).mono
            (List.Subset.trans (List.subset_append_right _ _)
              (subset_operatorNodes operator _))

/-- So are those of expressions. -/
theorem exprsDisclosures_shown
    {shapes : List Sql.Shape}
    {disclosure : Sql.Disclosure} :
    (exprs : Sql.Exprs) →
      disclosure ∈ exprs.disclosures referenceSchema shapes →
      Shows (exprsNodes exprs) disclosure
  | .nil, member => by cases member
  | .cons head tail, member => by
      rcases List.mem_append.mp member with inHead | inTail
      · exact
          (exprDisclosures_shown head inHead).mono
            (List.subset_append_left _ _)
      · exact
          (exprsDisclosures_shown tail inTail).mono
            (List.subset_append_right _ _)

/-- So are those of a FROM list. -/
theorem sourceDisclosures_shown
    {shapes : List Sql.Shape}
    {disclosure : Sql.Disclosure} :
    (source : Sql.From) →
      disclosure ∈ source.disclosures referenceSchema shapes →
      Shows (sourceNodes source) disclosure
  | .nothing, member => by cases member
  | .table reference, member => by cases member
  | .derived query aliasName columns, member =>
      (queryDisclosures_shown query member).mono
        (subset_derivedNodes query aliasName columns)
  | .join kind left right merging condition, member => by
      obtain ⟨ofLeft, ofRight, ofCondition⟩ :=
        subset_joinNodes kind left right merging condition
      simp only [Sql.From.disclosures, List.mem_append] at member
      rcases member with ((inLeft | inRight) | merged) | inCondition
      · exact (sourceDisclosures_shown left inLeft).mono ofLeft
      · exact (sourceDisclosures_shown right inRight).mono ofRight
      · obtain ⟨name, -, rfl⟩ := List.mem_map.mp merged
        trivial
      · exact (exprsDisclosures_shown condition inCondition).mono ofCondition
  | .lateral kind left query aliasName columns condition, member => by
      obtain ⟨ofLeft, ofQuery, ofCondition⟩ :=
        subset_lateralNodes kind left query aliasName columns condition
      simp only [Sql.From.disclosures, List.mem_append] at member
      rcases member with (inLeft | inQuery) | inCondition
      · exact (sourceDisclosures_shown left inLeft).mono ofLeft
      · exact (queryDisclosures_shown query inQuery).mono ofQuery
      · exact (exprsDisclosures_shown condition inCondition).mono ofCondition

end

/-- The nodes show a table. -/
def ShowsTable (nodes : List SqlNode) (table : String) : Prop :=
  ∃ (name : Sql.Identifier) (db catalog aliasOrName : String),
    .table name.name db catalog aliasOrName ∈ nodes ∧ name.key = table

/-- More nodes show as much. -/
theorem ShowsTable.mono
    {nodes more : List SqlNode}
    {table : String}
    (shows : ShowsTable nodes table)
    (included : nodes ⊆ more) :
    ShowsTable more table := by
  obtain ⟨name, db, catalog, aliasOrName, member, same⟩ := shows
  exact ⟨name, db, catalog, aliasOrName, included member, same⟩

mutual

/-- The tables of a query are shown by its nodes. -/
theorem queryTables_shown
    {table : String} :
    (query : Sql.Query) →
      table ∈ query.tables → ShowsTable (queryNodes query) table
  | .select clauses projections source condition groupBy having orderBy
      bounds, member => by
      obtain
        ⟨ofSource, ofProjections, ofCondition, ofGroupBy, ofHaving,
          ofOrderBy, ofBounds⟩ :=
        subset_selectNodes clauses projections source condition groupBy
          having orderBy bounds
      simp only [Sql.Query.tables, List.mem_append] at member
      rcases member with
        (((((inSource | inProjections) | inCondition) | inGroupBy) |
          inHaving) | inOrderBy) | inBounds
      · exact (sourceTables_shown source inSource).mono ofSource
      · exact (exprsTables_shown projections inProjections).mono ofProjections
      · exact (exprsTables_shown condition inCondition).mono ofCondition
      · exact (exprsTables_shown groupBy inGroupBy).mono ofGroupBy
      · exact (exprsTables_shown having inHaving).mono ofHaving
      · exact (exprsTables_shown orderBy inOrderBy).mono ofOrderBy
      · exact (exprsTables_shown bounds inBounds).mono ofBounds
  | .setOperation clauses kind left right orderBy bounds, member => by
      obtain ⟨ofLeft, ofRight, ofOrderBy, ofBounds⟩ :=
        subset_setOperationNodes clauses kind left right orderBy bounds
      simp only [Sql.Query.tables, List.mem_append] at member
      rcases member with ((inLeft | inRight) | inOrderBy) | inBounds
      · exact (queryTables_shown left inLeft).mono ofLeft
      · exact (queryTables_shown right inRight).mono ofRight
      · exact (exprsTables_shown orderBy inOrderBy).mono ofOrderBy
      · exact (exprsTables_shown bounds inBounds).mono ofBounds
  | .nested clauses query orderBy bounds, member => by
      obtain ⟨ofQuery, ofOrderBy, ofBounds⟩ :=
        subset_nestedNodes clauses query orderBy bounds
      simp only [Sql.Query.tables, List.mem_append] at member
      rcases member with (inQuery | inOrderBy) | inBounds
      · exact (queryTables_shown query inQuery).mono ofQuery
      · exact (exprsTables_shown orderBy inOrderBy).mono ofOrderBy
      · exact (exprsTables_shown bounds inBounds).mono ofBounds

/-- So are those of an expression. -/
theorem exprTables_shown
    {table : String} :
    (expr : Sql.Expr) →
      table ∈ expr.tables → ShowsTable (exprNodes expr) table
  | .column _ _, member => by cases member
  | .star, member => by cases member
  | .countAll, member => by cases member
  | .aliased expr name, member =>
      (exprTables_shown expr member).mono (subset_aliasedNodes expr name)
  | .apply operator args, member =>
      (exprsTables_shown args member).mono
        (subset_operatorNodes operator _)
  | .collective operator args, member =>
      (exprsTables_shown args member).mono
        (subset_operatorNodes operator _)
  | .subquery operator args query, member => by
      rcases List.mem_append.mp member with inArgs | inQuery
      · exact
          (exprsTables_shown args inArgs).mono
            (List.Subset.trans (List.subset_append_left _ _)
              (subset_operatorNodes operator _))
      · exact
          (queryTables_shown query inQuery).mono
            (List.Subset.trans (List.subset_append_right _ _)
              (subset_operatorNodes operator _))

/-- So are those of expressions. -/
theorem exprsTables_shown
    {table : String} :
    (exprs : Sql.Exprs) →
      table ∈ exprs.tables → ShowsTable (exprsNodes exprs) table
  | .nil, member => by cases member
  | .cons head tail, member => by
      rcases List.mem_append.mp member with inHead | inTail
      · exact
          (exprTables_shown head inHead).mono
            (List.subset_append_left _ _)
      · exact
          (exprsTables_shown tail inTail).mono
            (List.subset_append_right _ _)

/-- So are those of a FROM list. -/
theorem sourceTables_shown
    {table : String} :
    (source : Sql.From) →
      table ∈ source.tables → ShowsTable (sourceNodes source) table
  | .nothing, member => by cases member
  | .table reference, member => by
      obtain rfl := List.mem_singleton.mp member
      exact
        ⟨reference.name, _, _, _,
          List.mem_append_left _
            (List.mem_append_left _ (List.mem_singleton_self _)),
          rfl⟩
  | .derived query aliasName columns, member =>
      (queryTables_shown query member).mono
        (subset_derivedNodes query aliasName columns)
  | .join kind left right merging condition, member => by
      obtain ⟨ofLeft, ofRight, ofCondition⟩ :=
        subset_joinNodes kind left right merging condition
      simp only [Sql.From.tables, List.mem_append] at member
      rcases member with (inLeft | inRight) | inCondition
      · exact (sourceTables_shown left inLeft).mono ofLeft
      · exact (sourceTables_shown right inRight).mono ofRight
      · exact (exprsTables_shown condition inCondition).mono ofCondition
  | .lateral kind left query aliasName columns condition, member => by
      obtain ⟨ofLeft, ofQuery, ofCondition⟩ :=
        subset_lateralNodes kind left query aliasName columns condition
      simp only [Sql.From.tables, List.mem_append] at member
      rcases member with (inLeft | inQuery) | inCondition
      · exact (sourceTables_shown left inLeft).mono ofLeft
      · exact (queryTables_shown query inQuery).mono ofQuery
      · exact (exprsTables_shown condition inCondition).mono ofCondition

end

/-- A query whose type is allowed is the query of the statement. -/
theorem Statement.allowed_query
    {tree found : Sql.Query}
    (allowed : (Statement.query tree).allowed = .ok found) :
    found = tree := by
  simp only [Statement.allowed] at allowed
  split at allowed
  · split at allowed
    · cases allowed
      rfl
    · cases allowed
  · split at allowed
    · cases allowed
      rfl
    · cases allowed

/-- What `validate_readonly_sql` found out about a text that it accepted. -/
theorem validateReadonlySql_ok
    {glot : Sqlglot}
    {text : String}
    {safe : SafeQuery}
    (accepted : validateReadonlySql glot text = .ok safe) :
    ∃ query,
      glot.parse text = .ok [some (.query query)] ∧
        nodesError glot (queryNodes query) = none ∧
        (queryNodes query).findSome? limitError = none ∧
        safe.query = glot.sql (boundedQuery glot query) := by
  unfold validateReadonlySql at accepted
  cases spelled : textError glot text with
  | some message =>
      rw [spelled] at accepted
      cases accepted
  | none =>
      rw [spelled] at accepted
      cases parsed : parseStatement glot text with
      | error message =>
          rw [parsed] at accepted
          cases accepted
      | ok tree =>
          rw [parsed] at accepted
          have isParsed : glot.parse text = .ok [some tree] := by
            unfold parseStatement at parsed
            split at parsed <;> cases parsed
            assumption
          cases sound : nodesError glot tree.nodes with
          | some message =>
              simp [bind, Except.bind, raiseComplaint, sound]
                at accepted
          | none =>
              cases tree with
              | other type nodes =>
                  simp [bind, Except.bind, raiseComplaint, sound,
                    Statement.allowed] at accepted
              | query query =>
                  simp only [bind, Except.bind, raiseComplaint, sound]
                    at accepted
                  split at accepted
                  · cases accepted
                  · rename_i found allowed
                    have same : found = query := by
                      exact Statement.allowed_query allowed
                    subst same
                    cases limits :
                        (Statement.query found).nodes.findSome?
                          limitError with
                    | some message =>
                        rw [limits] at accepted
                        cases accepted
                    | none =>
                        rw [limits] at accepted
                        cases accepted
                        exact ⟨found, isParsed, sound, limits, rfl⟩

/-- What an accepted text was parsed to. -/
structure Accepted
    (glot : Sqlglot)
    (text : String)
    (safe : SafeQuery)
    (query : Sql.Query) : Prop where
  parsed : glot.parse text = .ok [some (.query query)]
  sound : nodesError glot (queryNodes query) = none
  returned : safe.query = glot.sql (boundedQuery glot query)

/-- An accepted text was parsed to one query, whose nodes were accepted. -/
theorem validateReadonlySql_accepted
    {glot : Sqlglot}
    {text : String}
    {safe : SafeQuery}
    (accepted : validateReadonlySql glot text = .ok safe) :
    ∃ query, Accepted glot text safe query := by
  obtain ⟨query, parsed, sound, -, returned⟩ :=
    validateReadonlySql_ok accepted
  exact ⟨query, parsed, sound, returned⟩

/-- The columns of the allowed schema. -/
def listedColumns : List String :=
  allowedSchema.flatMap Prod.snd

/-- The columns a table may be asked for are listed. -/
theorem allowedColumns_listed
    {table column : String}
    (member : column ∈ allowedColumns table) :
    column ∈ listedColumns := by
  unfold allowedColumns at member
  cases found : allowedSchema.lookup table with
  | none =>
      rw [found] at member
      cases member
  | some columns =>
      rw [found] at member
      obtain ⟨before, after, parts, -⟩ := List.lookup_eq_some_iff.mp found
      have entry : (table, columns) ∈ allowedSchema := by
        rw [parts]
        exact List.mem_append_right _ List.mem_cons_self
      exact List.mem_flatMap.mpr ⟨_, entry, member⟩

/-- The columns a reference may name are listed. -/
theorem columnsFor_listed
    {tables : List (String × String)}
    {table column : String}
    (member : column ∈ columnsFor tables table) :
    column ∈ listedColumns := by
  unfold columnsFor at member
  split at member
  · obtain ⟨entry, -, allowed⟩ := List.mem_flatMap.mp member
    exact allowedColumns_listed allowed
  · cases found : tables.reverse.lookup table with
    | none =>
        rw [found] at member
        cases member
    | some name =>
        rw [found] at member
        exact allowedColumns_listed member

/-- A listed column is its own key, and is not the hidden one. -/
theorem listed_key
    {name : Sql.Identifier}
    (listed : name.name ∈ listedColumns) :
    name.key ≠ "name" := by
  obtain ⟨text, quoted⟩ := name
  have all :
      ∀ column ∈ listedColumns, ∀ quoted,
        (Sql.Identifier.mk column quoted).key ≠ "name" := by
    decide
  exact all text listed quoted

/-- A listed table is its own key, and a table of the reference database. -/
theorem listedTable_known
    {name : Sql.Identifier}
    {columns : List String}
    (listed : allowedSchema.lookup name.name = some columns) :
    ∃ columns, referenceSchema.columns name.key = some columns := by
  obtain ⟨text, quoted⟩ := name
  obtain ⟨before, after, parts, -⟩ := List.lookup_eq_some_iff.mp listed
  have entry : (text, columns) ∈ allowedSchema := by
    rw [parts]
    exact List.mem_append_right _ List.mem_cons_self
  have all :
      ∀ entry ∈ allowedSchema, ∀ quoted,
        (referenceColumns
          (Sql.Identifier.mk entry.1 quoted).key).isSome = true := by
    decide
  exact Option.isSome_iff_exists.mp (all _ entry quoted)

namespace Accepted

variable {glot : Sqlglot} {text : String}
variable {safe : SafeQuery} {query : Sql.Query}

/-- There is no complaint about the nodes. -/
theorem complaints
    (accepted : Accepted glot text safe query) :
    (∀ node ∈ queryNodes query, tableError node = none) ∧
      (∀ node ∈ queryNodes query,
        columnError (tableNames (queryNodes query)) node = none) ∧
      ∀ node ∈ queryNodes query, starError node = none := by
  have sound := accepted.sound
  unfold nodesError at sound
  split at sound
  · cases sound
  · split at sound
    · cases sound
    · split at sound
      · cases sound
      · simp only [Option.or_eq_none_iff, List.findSome?_eq_none_iff]
          at sound
        exact ⟨sound.1, sound.2.1, sound.2.2.1⟩

/-- The tables of an accepted query are tables of the reference database. -/
theorem known
    (accepted : Accepted glot text safe query) :
    referenceSchema.Knows query.tables := by
  intro table member
  obtain ⟨name, db, catalog, aliasOrName, isNode, rfl⟩ :=
    queryTables_shown query member
  have allowed := accepted.complaints.1 _ isNode
  simp only [tableError] at allowed
  split at allowed
  · cases allowed
  · rename_i listed
    rw [not_or, not_or] at listed
    obtain ⟨columns, found⟩ :=
      Option.ne_none_iff_exists'.mp listed.2.2
    exact listedTable_known found

/-- An accepted query does not name the hidden column. -/
theorem unnamed
    (accepted : Accepted glot text safe query)
    {disclosure : Sql.Disclosure}
    (member : disclosure ∈ query.disclosures referenceSchema []) :
    bypasses disclosure = true := by
  have shown := queryDisclosures_shown query member
  obtain ⟨-, columns, stars⟩ := accepted.complaints
  cases disclosure with
  | column key =>
      obtain ⟨name, table, isNode, rfl⟩ := shown
      have allowed := columns _ isNode
      simp only [columnError] at allowed
      split at allowed
      · rename_i listed
        exact
          decide_eq_true
            (listed_key
              (columnsFor_listed (List.contains_iff_mem.mp listed)))
      · cases allowed
  | row aliasName =>
      rfl
  | join name =>
      rfl
  | star =>
      cases stars _ shown

/-- An accepted query that is discreet has no disclosures. -/
theorem silent
    (accepted : Accepted glot text safe query)
    (discreet : Discreet query) :
    query.disclosures referenceSchema [] = [] := by
  refine List.eq_nil_iff_forall_not_mem.mpr fun disclosure member => ?_
  have reaches := accepted.unnamed member
  rw [discreet disclosure member] at reaches
  cases reaches

end Accepted

/-- States that agree on the allowed schema agree in what is not hidden. -/
theorem AgreesOnAllowedSchema.databases
    {Value : Type}
    {left right : Sql.Database Value}
    (agree : AgreesOnAllowedSchema left right) :
    Sql.DatabaseAgrees referenceSchema left right := by
  intro table columns found
  have listed :
      ∃ allowed, allowedSchema.lookup table = some allowed := by
    have known :
        table = "orders" ∨ table = "order_items" ∨
          table = "customers" := by
      simp only [referenceSchema] at found
      unfold referenceColumns at found
      split at found <;> simp_all
    rcases known with rfl | rfl | rfl <;> exact ⟨_, rfl⟩
  obtain ⟨allowed, isAllowed⟩ := listed
  refine (agree table allowed isAllowed).imp ?_
  intro row other same column _ visible
  refine same column ?_
  simp only [referenceSchema, allowedColumns, isAllowed,
    Option.getD_some, Bool.not_eq_false'] at visible
  exact List.contains_iff_mem.mp visible

/-- The limit does not tell more than the query. -/
theorem Mirrors.bounded
    {Value Error : Type}
    {engine : Sql.Engine Value Error}
    {glot : Sqlglot}
    {execute :
      String → Sql.Database Value → Except Error (Sql.Rows Value)}
    {query : Sql.Query}
    {left right : Sql.Database Value}
    (mirrors : Mirrors engine glot execute query)
    (same :
      query.run engine referenceSchema left =
        query.run engine referenceSchema right) :
    execute (glot.sql (boundedQuery glot query)) left =
      execute (glot.sql (boundedQuery glot query)) right := by
  unfold boundedQuery
  split
  · rw [mirrors.limited, mirrors.limited, same]
  · rw [mirrors.generated, mirrors.generated, same]

/-- A query with the limit that the validator adds. -/
def limitedQuery : Sql.Query → Sql.Query
  | .select clauses projections source condition groupBy having orderBy
      bounds =>
      .select { clauses with limit := .literal 100 } projections source
        condition groupBy having orderBy bounds
  | .setOperation clauses kind left right orderBy bounds =>
      .setOperation { clauses with limit := .literal 100 } kind left right
        orderBy bounds
  | .nested clauses query orderBy bounds =>
      .nested { clauses with limit := .literal 100 } query orderBy bounds

/-- A `sqlglot` that knows one text and its query. -/
def sqlglotFor (text : String) (query : Sql.Query) : Sqlglot where
  parse given :=
    if given = text then .ok [some (.query query)] else .error "unknown"
  limit := limitedQuery
  sql tree :=
    if (queryClauses tree).limit = .none then text
    else text ++ " LIMIT 100"
  lower given := String.ofList (given.toList.map Char.toLower)
  upper given := String.ofList (given.toList.map Char.toUpper)

/-- A name without quotes. -/
def unquoted (name : String) : Sql.Identifier := ⟨name, false⟩

/-- A query for the identifiers of the customers. -/
def identifiersText : String := "SELECT id FROM customers"

/-- What it is parsed to. -/
def identifiersQuery : Sql.Query :=
  .select {} (.cons (.column none (unquoted "id")) .nil)
    (.table { name := unquoted "customers" })
    .nil .nil .nil .nil .nil

/-- Texts as values: inner joins, filters, and a group for each row. -/
def textEngine : Sql.Engine String String where
  null := ""
  row values := "(" ++ ",".intercalate values ++ ")"
  unresolved _ name := name
  undefined table := "relation does not exist: " ++ table
  apply _ args := ",".intercalate args
  collective _ args _ _ _ := ",".intercalate args
  subquery _ args _ := ",".intercalate args
  filter rows :=
    .ok
      ((List.range rows.length).filter fun position =>
        ((rows[position]?).getD []).all (· = "true"))
  group _ rows := .ok ((List.range rows.length).map ([·]))
  join _ pairings :=
    .ok
      (pairings.zipIdx.flatMap fun left =>
        left.1.zipIdx.filterMap fun right =>
          if right.1.merges.all (fun pair => decide (pair.1 = pair.2)) &&
              right.1.condition.all (· = "true") then
            some (some left.2, some right.2)
          else
            none)
  merge _ left _ := left
  output _ rows _ := .ok (rows.map Prod.fst)
  setOperation _ left right := do
    return (← left) ++ (← right)

/-- An execution of one text, with or without its limit. -/
def executeFor
    (text : String)
    (query : Sql.Query)
    (given : String)
    (database : Sql.Database String) :
    Except String (Sql.Rows String) :=
  if given = text then
    query.run textEngine referenceSchema database
  else
    (query.run textEngine referenceSchema database).map (List.take 100)

/-- A text without a limit is executed as its query. -/
theorem executeFor_mirrors
    {text : String}
    {query : Sql.Query}
    (unlimited : (queryClauses query).limit = .none) :
    Mirrors textEngine (sqlglotFor text query) (executeFor text query)
      query where
  generated database := by
    simp [sqlglotFor, executeFor, unlimited]
  limited database := by
    have isLimited :
        (queryClauses (limitedQuery query)).limit = .literal 100 := by
      cases query <;> rfl
    have other : text ++ " LIMIT 100" ≠ text := by
      intro same
      have lengths := congrArg String.length same
      rw [String.length_append] at lengths
      have positive : " LIMIT 100".length = 10 := by decide
      omega
    simp [sqlglotFor, executeFor, isLimited, other]

/-- Customers with these names. -/
def customersNamed (names : List String) : Sql.Database String
  | "customers" =>
      names.zipIdx.map fun customer column =>
        if column = "id" then toString customer.2 else customer.1
  | _ => []

end IncidentPilot
