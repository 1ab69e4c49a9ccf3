import IncidentPilot.Library.Sql

/-!
# Executing queries

What a query returns, over an engine that gives the operators, the clauses and
the joins their meaning.  The engine only ever sees values that expressions were
evaluated to, and answers with the positions of the rows it keeps, groups or
joins; the names in the query decide which values these are.
-/

namespace Sql

/-- The values of the columns of each item of a FROM list. -/
abbrev Row (Value : Type) := List (List Value)

/-- The rows of each table, which give a value for each column name. -/
abbrev Database (Value : Type) := String → List (String → Value)

/-- The rows that a query returns. -/
abbrev Rows (Value : Type) := List (List Value)

/-- The values a join decides on: those it merges, and its condition. -/
structure Pairing (Value : Type) where
  merges : List (Value × Value)
  condition : List Value

/-- The meaning of everything in a query but its names. -/
structure Engine (Value Error : Type) where
  null : Value
  row : List Value → Value
  unresolved : Option String → String → Value
  undefined : String → Error
  apply : Operator → List Value → Value
  collective :
    Operator → List Value → List (List (List Value)) →
    List (List Value) → Nat → Value
  subquery : Operator → List Value → Except Error (Rows Value) → Value
  filter : List (List Value) → Except Error (List Nat)
  group :
    Clauses → List (List Value × List Value) →
    Except Error (List (List Nat))
  join :
    String → List (List (Pairing Value)) →
    Except Error (List (Option Nat × Option Nat))
  merge : String → Value → Value → Value
  output :
    Clauses → List (List Value × List Value) → List Value →
    Except Error (Rows Value)
  setOperation :
    String → Except Error (Rows Value) → Except Error (Rows Value) →
    Except Error (Rows Value)

/--
A query in whose scope an expression is evaluated: what its FROM list offers,
the rows of the group at hand, and all groups.
-/
structure Level (Value : Type) where
  shape : Shape
  group : List (Row Value)
  groups : List (List (Row Value))
  position : Nat

section

variable {Value : Type}

/-- The scope of one row. -/
def Level.single (shape : Shape) (row : Row Value) : Level Value where
  shape := shape
  group := [row]
  groups := [[row]]
  position := 0

/-- The scopes of the groups. -/
def groupLevels
    (shape : Shape)
    (groups : List (List (Row Value))) : List (Level Value) :=
  groups.mapIdx fun position group => ⟨shape, group, groups, position⟩

/-- The rows at some positions. -/
def pick {Item : Type} (positions : List Nat) (rows : List Item) :
    List Item :=
  positions.filterMap fun position => rows[position]?

/-- The row at hand of a query, counted outwards. -/
def rowAt (levels : List (Level Value)) (level : Nat) :
    Option (Row Value) :=
  levels[level]?.bind fun found => found.group.head?

/-- The values of an item of the row at hand. -/
def tupleAt
    (levels : List (Level Value))
    (level binding : Nat) : Option (List Value) :=
  (rowAt levels level).bind fun row => row[binding]?

/-- The group at hand of a query, counted outwards. -/
def groupAt (levels : List (Level Value)) (level : Nat) :
    List (Row Value) :=
  (levels[level]?.map Level.group).getD []

/-- A query, counted outwards, looks at another row. -/
def focus
    (levels : List (Level Value))
    (level : Nat)
    (row : Row Value) : List (Level Value) :=
  levels.modify level fun found => .single found.shape row

/-- The row that stands in for a missing side of a join. -/
def nullRow {Error : Type} (engine : Engine Value Error) (shape : Shape) :
    Row Value :=
  shape.map fun binding => binding.columns.map fun _ => engine.null

/-- As many values as there are columns. -/
def tupleOf
    {Error : Type}
    (engine : Engine Value Error)
    (columns : List Field)
    (values : List Value) : List Value :=
  columns.mapIdx fun column _ => (values[column]?).getD engine.null

end

section

variable {Value Error : Type}
variable (engine : Engine Value Error)

/-- The value of a name in its scopes. -/
def valueOf
    (levels : List (Level Value))
    (table : Option String)
    (name : String) : Value :=
  match resolve (levels.map Level.shape) table name with
  | .field level binding column =>
      ((tupleAt levels level binding).bind fun tuple =>
        tuple[column]?).getD engine.null
  | .row level binding =>
      engine.row ((tupleAt levels level binding).getD [])
  | .ambiguous => engine.unresolved table name
  | .unknown => engine.unresolved table name

/-- The value of a star: all columns of the row at hand. -/
def starValue (levels : List (Level Value)) : Value :=
  engine.row ((rowAt levels 0).getD []).flatten

/-- The value of a column that a join merges, on one side. -/
def sideValue (shape : Shape) (row : Row Value) (name : String) : Value :=
  valueOf engine [.single shape row] none name

/-- The two sides of the columns that a join merges. -/
def mergedPairs
    (merging : Merging)
    (left right : Shape)
    (leftRow rightRow : Row Value) : List (Value × Value) :=
  (merging.names left right).map fun name =>
    (sideValue engine left leftRow name,
      sideValue engine right rightRow name)

/-- A row of a join. -/
def joinedRow
    (kind : String)
    (merging : Merging)
    (left right : Shape)
    (leftRow rightRow : Row Value) : Row Value :=
  leftRow ++ rightRow ++
    [(mergedPairs engine merging left right leftRow rightRow).map
      fun pair => engine.merge kind pair.1 pair.2]

/-- The rows of a join, for each left row with its own right rows. -/
def joinedRows
    (kind : String)
    (merging : Merging)
    (left right : Shape)
    (leftRows : List (Row Value))
    (rightRows : List (List (Row Value)))
    (unmatched : List (Row Value))
    (positions : List (Option Nat × Option Nat)) : List (Row Value) :=
  positions.map fun position =>
    let rights :=
      match position.1 with
      | none => unmatched
      | some leftIndex => (rightRows[leftIndex]?).getD []
    joinedRow engine kind merging left right
      ((position.1.bind fun index => leftRows[index]?).getD
        (nullRow engine left))
      ((position.2.bind fun index => rights[index]?).getD
        (nullRow engine right))

variable (schema : Schema) (database : Database Value)

mutual

/-- What a query returns in its scopes. -/
def Query.evaluate (levels : List (Level Value)) :
    Query → Except Error (Rows Value)
  | .select clauses projections source condition groupBy having orderBy
      bounds => do
      let shape := source.shape schema
      let rows ← source.evaluate levels
      let kept ←
        engine.filter
          (rows.map fun row =>
            condition.evaluate (.single shape row :: levels))
      let rows := pick kept rows
      let groups ←
        engine.group clauses
          (rows.map fun row =>
            (groupBy.evaluate (.single shape row :: levels),
              projections.evaluate (.single shape row :: levels)))
      let groups := groups.map fun positions => pick positions rows
      let kept ←
        engine.filter
          ((groupLevels shape groups).map fun level =>
            having.evaluate (level :: levels))
      engine.output clauses
        ((groupLevels shape (pick kept groups)).map fun level =>
          (projections.evaluate (level :: levels),
            orderBy.evaluate (level :: levels)))
        (bounds.evaluate levels)
  | .setOperation clauses kind left right orderBy bounds => do
      let rows ←
        engine.setOperation kind (left.evaluate levels)
          (right.evaluate levels)
      let columns := left.outputs.map (Field.mk · false)
      engine.output clauses
        (rows.map fun row =>
          (row,
            orderBy.evaluate
              (.single left.outputShape [tupleOf engine columns row] ::
                levels)))
        (bounds.evaluate levels)
  | .nested clauses query orderBy bounds => do
      let rows ← query.evaluate levels
      let columns := query.outputs.map (Field.mk · false)
      engine.output clauses
        (rows.map fun row =>
          (row,
            orderBy.evaluate
              (.single query.outputShape [tupleOf engine columns row] ::
                levels)))
        (bounds.evaluate levels)

/-- The value of an expression in its scopes. -/
def Expr.evaluate (levels : List (Level Value)) : Expr → Value
  | .column table name =>
      valueOf engine levels (table.map Identifier.key) name.key
  | .star => starValue engine levels
  | .countAll =>
      engine.collective (.function "COUNT") []
        ((List.range levels.length).map fun level =>
          (groupAt levels level).map fun _ => [])
        [] 0
  | .aliased expr _ => expr.evaluate levels
  | .apply operator args => engine.apply operator (args.evaluate levels)
  | .collective operator args =>
      engine.collective operator (args.evaluate levels)
        ((List.range levels.length).map fun level =>
          (groupAt levels level).map fun row =>
            args.evaluate (focus levels level row))
        (match levels with
          | [] => []
          | level :: outer =>
              (groupLevels level.shape level.groups).map fun other =>
                args.evaluate (other :: outer))
        ((levels.head?.map Level.position).getD 0)
  | .subquery operator args query =>
      engine.subquery operator (args.evaluate levels)
        (query.evaluate levels)

/-- The values of expressions in their scopes. -/
def Exprs.evaluate (levels : List (Level Value)) : Exprs → List Value
  | .nil => []
  | .cons head tail => head.evaluate levels :: tail.evaluate levels

/-- The rows of a FROM list in its scopes. -/
def From.evaluate (levels : List (Level Value)) :
    From → Except Error (List (Row Value))
  | .nothing => .ok [[]]
  | .table reference =>
      match schema.columns reference.name.key with
      | none => .error (engine.undefined reference.name.key)
      | some columns =>
          .ok
            ((database reference.name.key).map fun row =>
              [columns.map row])
  | .derived query _ _ => do
      let rows ← query.evaluate levels
      let columns := query.outputs.map (Field.mk · false)
      .ok (rows.map fun row => [tupleOf engine columns row])
  | .join kind left right merging condition => do
      let leftShape := left.shape schema
      let rightShape := right.shape schema
      let leftRows ← left.evaluate levels
      let rightRows ← right.evaluate levels
      let positions ←
        engine.join kind
          (leftRows.map fun leftRow =>
            rightRows.map fun rightRow =>
              ⟨mergedPairs engine merging leftShape rightShape leftRow
                  rightRow,
                condition.evaluate
                  (.single (joinedShape merging leftShape rightShape)
                      (joinedRow engine kind merging leftShape
                        rightShape leftRow rightRow) ::
                    levels)⟩)
      .ok
        (joinedRows engine kind merging leftShape rightShape leftRows
          (leftRows.map fun _ => rightRows) rightRows positions)
  | .lateral kind left query aliasName columns condition => do
      let leftShape := left.shape schema
      let rightShape := [query.binding aliasName columns]
      let fields := query.outputs.map (Field.mk · false)
      let leftRows ← left.evaluate levels
      let answers ←
        (leftRows.map fun leftRow =>
          query.evaluate (.single leftShape leftRow :: levels)).mapM id
      let rightRows :=
        answers.map fun rows =>
          rows.map fun row => [tupleOf engine fields row]
      let positions ←
        engine.join kind
          ((leftRows.zip rightRows).map fun part =>
            part.2.map fun rightRow =>
              ⟨[],
                condition.evaluate
                  (.single (joinedShape .none leftShape rightShape)
                      (joinedRow engine kind .none leftShape rightShape
                        part.1 rightRow) ::
                    levels)⟩)
      .ok
        (joinedRows engine kind .none leftShape rightShape leftRows
          rightRows [] positions)

end

/-- What a query returns. -/
def Query.run (query : Query) : Except Error (Rows Value) :=
  query.evaluate engine schema database []

end

end Sql
