import IncidentPilot.Library.SqlExposure

/-!
# Disclosures tell databases apart

In a database without marks no query sees one, so that every query whose tables
exist returns.  A query with disclosures fails in the database whose hidden values
are marked: it tells the two apart.
-/

namespace Sql

mutual

/-- The tables that a query names. -/
def Query.tables : Query → List String
  | .select _ projections source condition groupBy having orderBy
      bounds =>
      source.tables ++ projections.tables ++ condition.tables ++
        groupBy.tables ++ having.tables ++ orderBy.tables ++
        bounds.tables
  | .setOperation _ _ left right orderBy bounds =>
      left.tables ++ right.tables ++ orderBy.tables ++ bounds.tables
  | .nested _ query orderBy bounds =>
      query.tables ++ orderBy.tables ++ bounds.tables

/-- The tables that an expression names. -/
def Expr.tables : Expr → List String
  | .column _ _ => []
  | .star => []
  | .countAll => []
  | .aliased expr _ => expr.tables
  | .apply _ args => args.tables
  | .collective _ args => args.tables
  | .subquery _ args query => args.tables ++ query.tables

/-- The tables that expressions name. -/
def Exprs.tables : Exprs → List String
  | .nil => []
  | .cons head tail => head.tables ++ tail.tables

/-- The tables that a FROM list names. -/
def From.tables : From → List String
  | .nothing => []
  | .table reference => [reference.name.key]
  | .derived query _ _ => query.tables
  | .join _ left right _ condition =>
      left.tables ++ right.tables ++ condition.tables
  | .lateral _ left query _ _ condition =>
      left.tables ++ query.tables ++ condition.tables

end

/-- All of some tables exist. -/
def Schema.Knows (schema : Schema) (tables : List String) : Prop :=
  ∀ table ∈ tables, ∃ columns, schema.columns table = some columns

/-- Tables that exist, together. -/
theorem Schema.knows_append
    {schema : Schema}
    {first second : List String} :
    schema.Knows (first ++ second) ↔
      schema.Knows first ∧ schema.Knows second :=
  List.forall_mem_append

/-- No value of a row is marked. -/
def RowPlain (row : Row Bool) : Prop :=
  ∀ tuple ∈ row, ∀ value ∈ tuple, value = false

/-- No value of the rows at hand is marked. -/
def LevelsPlain (levels : List (Level Bool)) : Prop :=
  ∀ level ∈ levels, ∀ row, level.group.head? = some row → RowPlain row

/-- Values that are not marked. -/
theorem anyMarked_eq_false
    {values : List Bool} :
    anyMarked values = false ↔ ∀ value ∈ values, value = false := by
  simp [anyMarked]

/-- Lists of values that are not marked. -/
theorem anyMarkedList_map_eq_false
    {Item : Type}
    {items : List Item}
    {values : Item → List Bool}
    (plain : ∀ item ∈ items, anyMarked (values item) = false) :
    anyMarkedList (items.map values) = false := by
  refine List.any_eq_false.mpr fun list member => ?_
  obtain ⟨item, isItem, rfl⟩ := List.mem_map.mp member
  exact Bool.not_eq_true _ ▸ plain item isItem

/-- A tuple of a subquery is plain when its row is. -/
theorem tupleOf_plain
    {row : List Bool}
    (plain : ∀ value ∈ row, value = false)
    (columns : List Field) :
    RowPlain [tupleOf markingEngine columns row] := by
  intro tuple member value isValue
  obtain rfl := List.mem_singleton.mp member
  obtain ⟨position, inside, rfl⟩ := List.mem_mapIdx.mp isValue
  cases found : row[position]? with
  | none =>
      rfl
  | some value =>
      exact plain value (List.mem_of_getElem? found)

namespace LevelsPlain

variable {levels : List (Level Bool)}

/-- A scope whose row at hand is plain. -/
theorem cons
    {level : Level Bool}
    (plain : LevelsPlain levels)
    (rowPlain :
      ∀ row, level.group.head? = some row → RowPlain row) :
    LevelsPlain (level :: levels) := by
  intro other member
  rcases List.mem_cons.mp member with rfl | inLevels
  · exact rowPlain
  · exact plain other inLevels

/-- The scope of a plain row. -/
theorem single
    {row : Row Bool}
    (plain : LevelsPlain levels)
    (shape : Shape)
    (rowPlain : RowPlain row) :
    LevelsPlain (.single shape row :: levels) :=
  plain.cons fun other isRow => by
    cases isRow
    exact rowPlain

/-- The row at hand is plain. -/
theorem rowAt
    (plain : LevelsPlain levels)
    (level : Nat) :
    RowPlain ((Sql.rowAt levels level).getD []) := by
  cases found : Sql.rowAt levels level with
  | none =>
      intro tuple member
      cases member
  | some row =>
      obtain ⟨scope, isScope, isRow⟩ := Option.bind_eq_some_iff.mp found
      exact plain scope (List.mem_of_getElem? isScope) row isRow

/-- The values of a tuple at hand are not marked. -/
theorem tupleAt
    (plain : LevelsPlain levels)
    (level binding : Nat) :
    ∀ value ∈ (Sql.tupleAt levels level binding).getD [],
      value = false := by
  intro value member
  cases found : Sql.tupleAt levels level binding with
  | none =>
      rw [found] at member
      cases member
  | some tuple =>
      rw [found] at member
      obtain ⟨row, isRow, isTuple⟩ := Option.bind_eq_some_iff.mp found
      have rowPlain := plain.rowAt level
      rw [isRow] at rowPlain
      exact rowPlain tuple (List.mem_of_getElem? isTuple) value member

/-- No name has a marked value. -/
theorem valueOf
    (plain : LevelsPlain levels)
    (table : Option String)
    (name : String) :
    Sql.valueOf markingEngine levels table name = false := by
  unfold Sql.valueOf
  cases resolve (levels.map Level.shape) table name with
  | field level binding column =>
      have values := plain.tupleAt level binding
      dsimp only
      cases found : Sql.tupleAt levels level binding with
      | none =>
          rfl
      | some tuple =>
          rw [found] at values
          simp only [Option.bind_some]
          cases isValue : tuple[column]? with
          | none =>
              rfl
          | some value =>
              exact values value (List.mem_of_getElem? isValue)
  | row level binding =>
      exact anyMarked_eq_false.mpr (plain.tupleAt level binding)
  | ambiguous =>
      rfl
  | unknown =>
      rfl

/-- No star has a marked value. -/
theorem starValue
    (plain : LevelsPlain levels) :
    Sql.starValue markingEngine levels = false := by
  refine anyMarked_eq_false.mpr fun value member => ?_
  obtain ⟨tuple, isTuple, isValue⟩ := List.mem_flatten.mp member
  exact plain.rowAt 0 tuple isTuple value isValue

/-- The scopes of groups of one plain row. -/
theorem groupLevels
    {shape : Shape}
    {rows : List (Row Bool)}
    {level : Level Bool}
    (plain : LevelsPlain levels)
    (rowsPlain : ∀ row ∈ rows, RowPlain row)
    (member :
      level ∈ Sql.groupLevels shape (rows.map fun row => [row])) :
    LevelsPlain (level :: levels) := by
  obtain ⟨position, inside, rfl⟩ := List.mem_mapIdx.mp member
  refine plain.cons fun row isRow => ?_
  simp only [List.getElem_map, List.head?_cons, Option.some.injEq]
    at isRow
  subst isRow
  exact rowsPlain _ (List.getElem_mem _)

end LevelsPlain

/-- A side of a join, and what is merged, is plain. -/
theorem joinedRow_plain
    (kind : String)
    (merging : Merging)
    (left right : Shape)
    {leftRow rightRow : Row Bool}
    (lefts : RowPlain leftRow)
    (rights : RowPlain rightRow) :
    RowPlain
      (joinedRow markingEngine kind merging left right leftRow
        rightRow) := by
  have alone : LevelsPlain [] := fun level member => by cases member
  intro tuple member value isValue
  unfold joinedRow at member
  simp only [List.mem_append, List.mem_singleton] at member
  rcases member with (inLeft | inRight) | rfl
  · exact lefts tuple inLeft value isValue
  · exact rights tuple inRight value isValue
  · obtain ⟨pair, isPair, rfl⟩ := List.mem_map.mp isValue
    obtain ⟨name, -, rfl⟩ := List.mem_map.mp isPair
    simp only [sideValue, markingEngine]
    have leftPlain := (alone.single left lefts).valueOf none name
    have rightPlain := (alone.single right rights).valueOf none name
    simp only [markingEngine] at leftPlain rightPlain
    rw [leftPlain, rightPlain]
    rfl

/-- The rows of a join are plain. -/
theorem joinedRows_plain
    (kind : String)
    (merging : Merging)
    (left right : Shape)
    {leftRows unmatched : List (Row Bool)}
    {rightRows : List (List (Row Bool))}
    {positions : List (Option Nat × Option Nat)}
    (lefts : ∀ row ∈ leftRows, RowPlain row)
    (rights : ∀ rows ∈ rightRows, ∀ row ∈ rows, RowPlain row)
    (rest : ∀ row ∈ unmatched, RowPlain row) :
    ∀ row ∈
        joinedRows markingEngine kind merging left right leftRows
          rightRows unmatched positions,
      RowPlain row := by
  have nulls (shape : Shape) : RowPlain (nullRow markingEngine shape) := by
    intro tuple member value isValue
    obtain ⟨binding, -, rfl⟩ := List.mem_map.mp member
    obtain ⟨column, -, rfl⟩ := List.mem_map.mp isValue
    rfl
  have picked
      {rows : List (Row Bool)}
      (shape : Shape)
      (plain : ∀ row ∈ rows, RowPlain row)
      (position : Option Nat) :
      RowPlain
        ((position.bind fun index => rows[index]?).getD
          (nullRow markingEngine shape)) := by
    cases found : position.bind fun index => rows[index]? with
    | none =>
        exact nulls shape
    | some row =>
        obtain ⟨index, -, isRow⟩ := Option.bind_eq_some_iff.mp found
        exact plain row (List.mem_of_getElem? isRow)
  intro row member
  obtain ⟨position, -, rfl⟩ := List.mem_map.mp member
  refine joinedRow_plain kind merging left right
    (picked left lefts position.1) (picked right ?_ position.2)
  cases position.1 with
  | none =>
      exact rest
  | some index =>
      dsimp only
      cases found : rightRows[index]? with
      | none =>
          intro row member
          cases member
      | some rows =>
          exact rights rows (List.mem_of_getElem? found)

section

variable (schema : Schema)

/-- In plain scopes a query returns plain rows. -/
def Query.Plain (query : Query) : Prop :=
  ∀ levels : List (Level Bool),
    LevelsPlain levels →
    schema.Knows query.tables →
    ∃ rows,
      query.evaluate markingEngine schema plainDatabase levels =
          .ok rows ∧
        ∀ row ∈ rows, ∀ value ∈ row, value = false

/-- In plain scopes an expression is not marked. -/
def Expr.Plain (expr : Expr) : Prop :=
  ∀ levels : List (Level Bool),
    LevelsPlain levels →
    schema.Knows expr.tables →
    expr.evaluate markingEngine schema plainDatabase levels = false

/-- In plain scopes expressions are not marked. -/
def Exprs.Plain (exprs : Exprs) : Prop :=
  ∀ levels : List (Level Bool),
    LevelsPlain levels →
    schema.Knows exprs.tables →
    anyMarked
        (exprs.evaluate markingEngine schema plainDatabase levels) =
      false

/-- In plain scopes a FROM list has plain rows. -/
def From.Plain (source : From) : Prop :=
  ∀ levels : List (Level Bool),
    LevelsPlain levels →
    schema.Knows source.tables →
    ∃ rows,
      source.evaluate markingEngine schema plainDatabase levels =
          .ok rows ∧
        ∀ row ∈ rows, RowPlain row

end

section

variable {schema : Schema}

/-- A computation goes on with the value of its first part. -/
theorem bind_of_ok
    {First Second Error : Type}
    {first : Except Error First}
    {value : First}
    (isValue : first = .ok value)
    (second : First → Except Error Second) :
    (first >>= second) = second value := by
  rw [isValue]
  rfl

/-- A filter that sees no mark keeps all rows. -/
theorem filter_plain
    {Item : Type}
    {items : List Item}
    {values : Item → List Bool}
    (plain : ∀ item ∈ items, anyMarked (values item) = false) :
    markingEngine.filter (items.map values) =
      .ok (List.range items.length) := by
  simp only [markingEngine, anyMarkedList_map_eq_false plain,
    List.length_map]
  rfl

/-- An output that sees no mark returns the first of its rows. -/
theorem output_plain
    (clauses : Clauses)
    {Item : Type}
    {items : List Item}
    {values keys : Item → List Bool}
    {bounds : List Bool}
    (valuesPlain : ∀ item ∈ items, anyMarked (values item) = false)
    (keysPlain : ∀ item ∈ items, anyMarked (keys item) = false)
    (boundsPlain : anyMarked bounds = false) :
    ∃ rows,
      markingEngine.output clauses
            (items.map fun item => (values item, keys item)) bounds =
          .ok rows ∧
        ∀ row ∈ rows, ∀ value ∈ row, value = false := by
  refine ⟨(items.map values).take 1, ?_, ?_⟩
  · simp only [markingEngine, List.map_map, Function.comp_def,
      anyMarkedList_map_eq_false valuesPlain,
      anyMarkedList_map_eq_false keysPlain, boundsPlain]
    rfl
  · intro row member
    obtain ⟨item, isItem, rfl⟩ :=
      List.mem_map.mp (List.mem_of_mem_take member)
    exact anyMarked_eq_false.mp (valuesPlain item isItem)

/-- A select returns plain rows. -/
theorem Query.Plain.select
    (clauses : Clauses)
    {projections : Exprs}
    {source : From}
    {condition groupBy having orderBy bounds : Exprs}
    (projected : projections.Plain schema)
    (sourced : source.Plain schema)
    (filtered : condition.Plain schema)
    (grouped : groupBy.Plain schema)
    (kept : having.Plain schema)
    (ordered : orderBy.Plain schema)
    (bounded : bounds.Plain schema) :
    (Query.select clauses projections source condition groupBy having
      orderBy bounds).Plain schema := by
  intro levels plain known
  simp only [Query.tables, Schema.knows_append, and_assoc] at known
  obtain ⟨sourceKnown, projectionsKnown, conditionKnown, groupByKnown,
    havingKnown, orderByKnown, boundsKnown⟩ := known
  obtain ⟨rows, fromSource, rowsPlain⟩ :=
    sourced levels plain sourceKnown
  have conditions :=
    filter_plain fun row member =>
      filtered _ (plain.single (source.shape schema)
        (rowsPlain row member)) conditionKnown
  have keys :
      markingEngine.group clauses
          (rows.map fun row =>
            (groupBy.evaluate markingEngine schema plainDatabase
                (.single (source.shape schema) row :: levels),
              projections.evaluate markingEngine schema plainDatabase
                (.single (source.shape schema) row :: levels))) =
        .ok
          ((List.range rows.length).map fun position => [position]) := by
    have unmarked :=
      anyMarkedList_map_eq_false fun row member =>
        grouped _ (plain.single (source.shape schema)
          (rowsPlain row member)) groupByKnown
    simp only [markingEngine] at unmarked
    simp only [markingEngine, List.map_map, Function.comp_def,
      unmarked, List.length_map]
    rfl
  have groupsPlain :
      ∀ level ∈
          groupLevels (source.shape schema) (rows.map fun row => [row]),
        LevelsPlain (level :: levels) :=
    fun level member => plain.groupLevels rowsPlain member
  have remaining :=
    filter_plain fun level member =>
      kept _ (groupsPlain level member) havingKnown
  obtain ⟨result, returned, resultPlain⟩ :=
    output_plain clauses
      (fun level member =>
        projected _ (groupsPlain level member) projectionsKnown)
      (fun level member =>
        ordered _ (groupsPlain level member) orderByKnown)
      (bounded levels plain boundsKnown)
  refine ⟨result, ?_, resultPlain⟩
  simp only [Query.evaluate]
  rw [bind_of_ok fromSource, bind_of_ok conditions, pick_range,
    bind_of_ok keys, singleton_groups, bind_of_ok remaining,
    length_groupLevels, pick_range]
  exact returned

/-- The rows of an operand, in the scope of the ORDER BY of a query. -/
theorem Exprs.Plain.outputs
    (clauses : Clauses)
    {orderBy bounds : Exprs}
    {query : Query}
    {levels : List (Level Bool)}
    {rows : Rows Bool}
    (ordered : orderBy.Plain schema)
    (bounded : bounds.Plain schema)
    (plain : LevelsPlain levels)
    (orderByKnown : schema.Knows orderBy.tables)
    (boundsKnown : schema.Knows bounds.tables)
    (rowsPlain : ∀ row ∈ rows, ∀ value ∈ row, value = false) :
    ∃ result,
      markingEngine.output clauses
            (rows.map fun row =>
              (row,
                orderBy.evaluate markingEngine schema plainDatabase
                  (.single query.outputShape
                      [tupleOf markingEngine
                        (query.outputs.map (Field.mk · false)) row] ::
                    levels)))
            (bounds.evaluate markingEngine schema plainDatabase levels) =
          .ok result ∧
        ∀ row ∈ result, ∀ value ∈ row, value = false :=
  output_plain clauses
    (fun row member => anyMarked_eq_false.mpr (rowsPlain row member))
    (fun row member =>
      ordered _
        (plain.single query.outputShape
          (tupleOf_plain (rowsPlain row member) _))
        orderByKnown)
    (bounded levels plain boundsKnown)

/-- A set operation returns plain rows. -/
theorem Query.Plain.setOperation
    (clauses : Clauses)
    (kind : String)
    {left right : Query}
    {orderBy bounds : Exprs}
    (leftQuery : left.Plain schema)
    (rightQuery : right.Plain schema)
    (ordered : orderBy.Plain schema)
    (bounded : bounds.Plain schema) :
    (Query.setOperation clauses kind left right orderBy bounds).Plain
      schema := by
  intro levels plain known
  simp only [Query.tables, Schema.knows_append, and_assoc] at known
  obtain ⟨leftKnown, rightKnown, orderByKnown, boundsKnown⟩ := known
  obtain ⟨leftRows, leftFound, leftPlain⟩ :=
    leftQuery levels plain leftKnown
  obtain ⟨rightRows, rightFound, -⟩ := rightQuery levels plain rightKnown
  have combined :
      markingEngine.setOperation kind
          (left.evaluate markingEngine schema plainDatabase levels)
          (right.evaluate markingEngine schema plainDatabase levels) =
        .ok leftRows := by
    rw [leftFound, rightFound]
    rfl
  obtain ⟨result, returned, resultPlain⟩ :=
    ordered.outputs clauses bounded plain orderByKnown boundsKnown
      leftPlain
  refine ⟨result, ?_, resultPlain⟩
  simp only [Query.evaluate]
  rw [bind_of_ok combined]
  exact returned

/-- A query in parentheses returns plain rows. -/
theorem Query.Plain.nested
    (clauses : Clauses)
    {query : Query}
    {orderBy bounds : Exprs}
    (inner : query.Plain schema)
    (ordered : orderBy.Plain schema)
    (bounded : bounds.Plain schema) :
    (Query.nested clauses query orderBy bounds).Plain schema := by
  intro levels plain known
  simp only [Query.tables, Schema.knows_append, and_assoc] at known
  obtain ⟨queryKnown, orderByKnown, boundsKnown⟩ := known
  obtain ⟨rows, answered, rowsPlain⟩ := inner levels plain queryKnown
  obtain ⟨result, returned, resultPlain⟩ :=
    ordered.outputs clauses bounded plain orderByKnown boundsKnown
      rowsPlain
  refine ⟨result, ?_, resultPlain⟩
  simp only [Query.evaluate]
  rw [bind_of_ok answered]
  exact returned

/-- A subquery is not marked. -/
theorem Expr.Plain.subquery
    (operator : Operator)
    {args : Exprs}
    {query : Query}
    (given : args.Plain schema)
    (inner : query.Plain schema) :
    (Expr.subquery operator args query).Plain schema := by
  intro levels plain known
  obtain ⟨argsKnown, queryKnown⟩ := Schema.knows_append.mp known
  have argsPlain := given levels plain argsKnown
  obtain ⟨rows, answered, -⟩ := inner levels plain queryKnown
  simp only [markingEngine] at argsPlain answered
  simp only [Expr.evaluate, markingEngine, argsPlain, answered]
  rfl

/-- Expressions are not marked. -/
theorem Exprs.Plain.cons
    {head : Expr}
    {tail : Exprs}
    (first : head.Plain schema)
    (rest : tail.Plain schema) :
    (Exprs.cons head tail).Plain schema := by
  intro levels plain known
  obtain ⟨headKnown, tailKnown⟩ := Schema.knows_append.mp known
  have headPlain := first levels plain headKnown
  have tailPlain := rest levels plain tailKnown
  rw [Exprs.evaluate, anyMarked, List.any_cons, Bool.or_eq_false_iff]
  exact ⟨headPlain, tailPlain⟩

/-- A table has a plain row. -/
theorem From.Plain.table
    (reference : TableReference) :
    (From.table reference).Plain schema := by
  intro levels plain known
  obtain ⟨columns, found⟩ := known _ (List.mem_singleton_self _)
  refine ⟨[[columns.map fun _ => false]], ?_, ?_⟩
  · simp only [From.evaluate, found]
    rfl
  · intro row member tuple isTuple value isValue
    obtain rfl := List.mem_singleton.mp member
    obtain rfl := List.mem_singleton.mp isTuple
    obtain ⟨column, -, rfl⟩ := List.mem_map.mp isValue
    rfl

/-- The rows of a subquery are plain. -/
theorem derivedRows_plain
    {rows : Rows Bool}
    (rowsPlain : ∀ row ∈ rows, ∀ value ∈ row, value = false)
    (columns : List Field) :
    ∀ row ∈ rows.map fun row => [tupleOf markingEngine columns row],
      RowPlain row := by
  intro row member
  obtain ⟨values, isRow, rfl⟩ := List.mem_map.mp member
  exact tupleOf_plain (rowsPlain values isRow) columns

/-- A subquery of the FROM list has plain rows. -/
theorem From.Plain.derived
    {query : Query}
    (inner : query.Plain schema)
    (aliasName : Option Identifier)
    (columns : List Identifier) :
    (From.derived query aliasName columns).Plain schema := by
  intro levels plain known
  obtain ⟨rows, answered, rowsPlain⟩ := inner levels plain known
  simp only [From.evaluate]
  rw [bind_of_ok answered]
  exact ⟨_, rfl, derivedRows_plain rowsPlain _⟩

/-- A join that sees no mark pairs its rows. -/
theorem join_plain
    (kind : String)
    {matrix : List (List (Pairing Bool))}
    (plain :
      ∀ pairings ∈ matrix, ∀ pairing ∈ pairings,
        pairing.marked = false) :
    markingEngine.join kind matrix = .ok (allPairs matrix) := by
  have unmarked :
      (matrix.any fun row => row.any Pairing.marked) = false := by
    refine List.any_eq_false.mpr fun pairings isRow => ?_
    refine Bool.not_eq_true _ ▸ List.any_eq_false.mpr ?_
    intro pairing member
    exact Bool.not_eq_true _ ▸ plain pairings isRow pairing member
  simp only [markingEngine, unmarked]
  rfl

/-- What a join decides on is not marked. -/
theorem pairing_plain
    (merging : Merging)
    (left right : Shape)
    {leftRow rightRow : Row Bool}
    {condition : List Bool}
    (lefts : RowPlain leftRow)
    (rights : RowPlain rightRow)
    (conditionPlain : anyMarked condition = false) :
    (Pairing.mk
        (mergedPairs markingEngine merging left right leftRow rightRow)
        condition).marked =
      false := by
  have alone : LevelsPlain [] := fun level member => by cases member
  refine Bool.or_eq_false_iff.mpr ⟨?_, conditionPlain⟩
  refine List.any_eq_false.mpr fun pair member => ?_
  obtain ⟨name, -, rfl⟩ := List.mem_map.mp member
  have leftPlain := (alone.single left lefts).valueOf none name
  have rightPlain := (alone.single right rights).valueOf none name
  simp only [sideValue, leftPlain, rightPlain]
  decide

/-- A join has plain rows. -/
theorem From.Plain.join
    (kind : String)
    {left right : From}
    (merging : Merging)
    {condition : Exprs}
    (leftSource : left.Plain schema)
    (rightSource : right.Plain schema)
    (conditioned : condition.Plain schema) :
    (From.join kind left right merging condition).Plain schema := by
  intro levels plain known
  simp only [From.tables, Schema.knows_append, and_assoc] at known
  obtain ⟨leftKnown, rightKnown, conditionKnown⟩ := known
  obtain ⟨leftRows, leftFound, lefts⟩ :=
    leftSource levels plain leftKnown
  obtain ⟨rightRows, rightFound, rights⟩ :=
    rightSource levels plain rightKnown
  simp only [From.evaluate]
  rw [bind_of_ok leftFound, bind_of_ok rightFound,
    bind_of_ok (join_plain kind ?_)]
  · refine ⟨_, rfl, joinedRows_plain kind merging _ _ lefts ?_ rights⟩
    intro rows member
    obtain ⟨-, -, rfl⟩ := List.mem_map.mp member
    exact rights
  · intro pairings isRow pairing member
    obtain ⟨leftRow, isLeft, rfl⟩ := List.mem_map.mp isRow
    obtain ⟨rightRow, isRight, rfl⟩ := List.mem_map.mp member
    have leftPlain := lefts leftRow isLeft
    have rightPlain := rights rightRow isRight
    exact
      pairing_plain merging _ _ leftPlain rightPlain
        (conditioned _
          (plain.single _
            (joinedRow_plain kind merging _ _ leftPlain rightPlain))
          conditionKnown)

/-- Computations that all succeed have plain answers. -/
theorem mapM_plain
    {Item : Type}
    {items : List Item}
    {answer : Item → Except Unit (Rows Bool)}
    (plain :
      ∀ item ∈ items, ∃ rows,
        answer item = .ok rows ∧
          ∀ row ∈ rows, ∀ value ∈ row, value = false) :
    ∃ answers,
      (items.map answer).mapM id = .ok answers ∧
        ∀ rows ∈ answers, ∀ row ∈ rows, ∀ value ∈ row,
          value = false := by
  induction items with
  | nil =>
      exact ⟨[], rfl, fun rows member => by cases member⟩
  | cons item items inductionHypothesis =>
      obtain ⟨rows, answered, rowsPlain⟩ :=
        plain item List.mem_cons_self
      obtain ⟨answers, others, othersPlain⟩ :=
        inductionHypothesis fun other member =>
          plain other (List.mem_cons_of_mem _ member)
      refine ⟨rows :: answers, ?_, List.forall_mem_cons.mpr
        ⟨rowsPlain, othersPlain⟩⟩
      rw [List.map_cons, List.mapM_cons, id, bind_of_ok answered,
        bind_of_ok others]
      rfl

/-- A join with a LATERAL subquery has plain rows. -/
theorem From.Plain.lateral
    (kind : String)
    {left : From}
    {query : Query}
    {condition : Exprs}
    (leftSource : left.Plain schema)
    (inner : query.Plain schema)
    (aliasName : Option Identifier)
    (columns : List Identifier)
    (conditioned : condition.Plain schema) :
    (From.lateral kind left query aliasName columns condition).Plain
      schema := by
  intro levels plain known
  simp only [From.tables, Schema.knows_append, and_assoc] at known
  obtain ⟨leftKnown, queryKnown, conditionKnown⟩ := known
  obtain ⟨leftRows, leftFound, lefts⟩ :=
    leftSource levels plain leftKnown
  obtain ⟨answers, answered, answersPlain⟩ :=
    mapM_plain fun leftRow member =>
      inner _ (plain.single (left.shape schema) (lefts leftRow member))
        queryKnown
  have rights :
      ∀ rows ∈
          answers.map fun rows =>
            rows.map fun row =>
              [tupleOf markingEngine
                (query.outputs.map (Field.mk · false)) row],
        ∀ row ∈ rows, RowPlain row := by
    intro rows member
    obtain ⟨values, isAnswer, rfl⟩ := List.mem_map.mp member
    exact derivedRows_plain (answersPlain values isAnswer) _
  simp only [From.evaluate]
  rw [bind_of_ok leftFound, bind_of_ok answered,
    bind_of_ok (join_plain kind ?_)]
  · refine ⟨_, rfl, joinedRows_plain kind .none _ _ lefts rights ?_⟩
    intro row member
    cases member
  · intro pairings isRow pairing member
    obtain ⟨⟨leftRow, rows⟩, isPart, rfl⟩ := List.mem_map.mp isRow
    obtain ⟨rightRow, isRight, rfl⟩ := List.mem_map.mp member
    have leftPlain := lefts leftRow (List.of_mem_zip isPart).1
    have rightPlain :=
      rights rows (List.of_mem_zip isPart).2 rightRow isRight
    refine pairing_plain .none (left.shape schema)
      [query.binding aliasName columns] leftPlain rightPlain ?_
    exact
      conditioned _
        (plain.single _
          (joinedRow_plain kind .none _ _ leftPlain rightPlain))
        conditionKnown

mutual

/-- Every query returns plain rows. -/
theorem Query.plain : (query : Query) → query.Plain schema
  | .select clauses projections source condition groupBy having orderBy
      bounds =>
      .select clauses projections.plain source.plain condition.plain
        groupBy.plain having.plain orderBy.plain bounds.plain
  | .setOperation clauses kind left right orderBy bounds =>
      .setOperation clauses kind left.plain right.plain orderBy.plain
        bounds.plain
  | .nested clauses query orderBy bounds =>
      .nested clauses query.plain orderBy.plain bounds.plain

/-- No expression is marked. -/
theorem Expr.plain : (expr : Expr) → expr.Plain schema
  | .column _ _ => fun _ plain _ => plain.valueOf _ _
  | .star => fun _ plain _ => plain.starValue
  | .countAll => fun _ _ _ => rfl
  | .aliased expr _ => fun levels plain known =>
      expr.plain levels plain known
  | .apply _ args => fun levels plain known =>
      args.plain levels plain known
  | .collective _ args => fun levels plain known =>
      args.plain levels plain known
  | .subquery operator args query =>
      .subquery operator args.plain query.plain

/-- No expressions are marked. -/
theorem Exprs.plain : (exprs : Exprs) → exprs.Plain schema
  | .nil => fun _ _ _ => rfl
  | .cons head tail => .cons head.plain tail.plain

/-- Every FROM list has plain rows. -/
theorem From.plain : (source : From) → source.Plain schema
  | .nothing => fun _ _ _ => by
      refine ⟨[[]], rfl, fun row member => ?_⟩
      obtain rfl := List.mem_singleton.mp member
      intro tuple member
      cases member
  | .table reference => .table reference
  | .derived query aliasName columns =>
      .derived query.plain aliasName columns
  | .join kind left right merging condition =>
      .join kind merging left.plain right.plain condition.plain
  | .lateral kind left query aliasName columns condition =>
      .lateral kind left.plain query.plain aliasName columns
        condition.plain

end

end

end Sql
