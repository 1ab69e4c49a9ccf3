import Mathlib.Data.List.Dedup

/-!
# Queries and the scopes of their names

The syntax of read-only queries as far as names are concerned, the columns each
item of a FROM list offers, and how PostgreSQL resolves a name: in the innermost
query whose FROM list has the column, or else as a whole row.  Some columns of
the tables are hidden; `disclosures` lists the places of a query that name one.
-/

namespace Sql

/-- An identifier as it is written. -/
structure Identifier where
  name : String
  quoted : Bool
  deriving Repr, DecidableEq

/-- What an identifier stands for: without quotes it is folded to lower case. -/
def Identifier.key (identifier : Identifier) : String :=
  if identifier.quoted = true then
    identifier.name
  else
    String.ofList (identifier.name.toList.map Char.toLower)

/-- What combines the values of its arguments; a literal has no arguments. -/
inductive Operator where
  | plain (text : String)
  | function (name : String)
  | anonymous (name : String)
  | cast (type : String)
  | dot (field : String)
  deriving Repr, DecidableEq

/-- How a query bounds its rows; a LIMIT may be an integer literal. -/
inductive Bound where
  | none
  | literal (count : Int)
  | expression
  | fetch
  deriving Repr, DecidableEq

/--
The clauses of a query that hold no names.  `text` is how the others are
written: DISTINCT, sort directions and the like.
-/
structure Clauses where
  text : String := ""
  limit : Bound := .none
  into : Bool := false
  locks : Bool := false
  ctes : Bool := false
  deriving Repr, DecidableEq

/-- A table in a FROM list, possibly with an alias and names for its columns. -/
structure TableReference where
  name : Identifier
  db : String := ""
  catalog : String := ""
  aliasName : Option Identifier := none
  columns : List Identifier := []
  deriving Repr, DecidableEq

/-- The columns a join merges: USING names them, NATURAL takes the common ones. -/
inductive Merging where
  | none
  | using (names : List Identifier)
  | natural
  deriving Repr, DecidableEq

mutual

/-- A query; its bounds are the expressions of LIMIT and OFFSET. -/
inductive Query where
  | select
      (clauses : Clauses)
      (projections : Exprs)
      (source : From)
      (condition groupBy having orderBy bounds : Exprs)
  | setOperation
      (clauses : Clauses)
      (kind : String)
      (left right : Query)
      (orderBy bounds : Exprs)
  | nested
      (clauses : Clauses)
      (query : Query)
      (orderBy bounds : Exprs)

/--
An expression.  A collective operator, an aggregate or a window function, looks
at its arguments on the other rows as well.
-/
inductive Expr where
  | column (table : Option Identifier) (name : Identifier)
  | star
  | countAll
  | aliased (expr : Expr) (name : Identifier)
  | apply (operator : Operator) (args : Exprs)
  | collective (operator : Operator) (args : Exprs)
  | subquery (operator : Operator) (args : Exprs) (query : Query)

/-- A list of expressions. -/
inductive Exprs where
  | nil
  | cons (head : Expr) (tail : Exprs)

/-- A FROM list: tables, subqueries, joins, and joins with a LATERAL subquery. -/
inductive From where
  | nothing
  | table (reference : TableReference)
  | derived
      (query : Query)
      (aliasName : Option Identifier)
      (columns : List Identifier)
  | join
      (kind : String)
      (left right : From)
      (merging : Merging)
      (condition : Exprs)
  | lateral
      (kind : String)
      (left : From)
      (query : Query)
      (aliasName : Option Identifier)
      (columns : List Identifier)
      (condition : Exprs)

end

/-- The tables of a database, and which of their columns are hidden. -/
structure Schema where
  columns : String → Option (List String)
  hidden : String → String → Bool

/-- A column that an item of a FROM list offers. -/
structure Field where
  name : String
  hidden : Bool
  deriving Repr, DecidableEq

/-- An item of a FROM list; a merged one holds the columns a join merges. -/
structure Binding where
  aliasName : Option String
  merged : Bool
  columns : List Field
  deriving Repr, DecidableEq

/-- What the items of a FROM list offer. -/
abbrev Shape := List Binding

/-- The first columns take the names of a column alias list. -/
def renamed : List Field → List Identifier → List Field
  | [], _ => []
  | field :: fields, [] => field :: fields
  | field :: fields, name :: names =>
      { field with name := name.key } :: renamed fields names

/-- The columns of a table. -/
def TableReference.fields
    (schema : Schema)
    (reference : TableReference) : List Field :=
  let table := reference.name.key
  ((schema.columns table).getD []).map fun column =>
    ⟨column, schema.hidden table column⟩

/-- What a table offers. -/
def TableReference.binding
    (schema : Schema)
    (reference : TableReference) : Binding where
  aliasName := some (reference.aliasName.getD reference.name).key
  merged := false
  columns := renamed (reference.fields schema) reference.columns

/-- The name of an output column. -/
def Expr.output : Expr → String
  | .column _ name => name.key
  | .aliased _ name => name.key
  | .apply (.function name) _ => (Identifier.mk name false).key
  | .collective (.function name) _ => (Identifier.mk name false).key
  | .countAll => "count"
  | _ => "?column?"

/-- The names of output columns. -/
def Exprs.outputs : Exprs → List String
  | .nil => []
  | .cons head tail => head.output :: tail.outputs

/-- The names of the columns of a query: those of its first operand. -/
def Query.outputs : Query → List String
  | .select _ projections _ _ _ _ _ _ => projections.outputs
  | .setOperation _ _ left _ _ _ => left.outputs
  | .nested _ query _ _ => query.outputs

/-- What the rows of a query offer under an alias. -/
def Query.binding
    (query : Query)
    (aliasName : Option Identifier)
    (columns : List Identifier) : Binding where
  aliasName := aliasName.map Identifier.key
  merged := false
  columns := renamed (query.outputs.map (Field.mk · false)) columns

/-- The positions of a column name in an item. -/
def Binding.positions
    (binding : Binding)
    (index : Nat)
    (name : String) : List (Nat × Nat) :=
  binding.columns.zipIdx.filterMap fun column =>
    if column.1.name = name then some (index, column.2) else none

/-- The positions of a column name in some of the items. -/
def Shape.positions
    (shape : Shape)
    (among : Binding → Bool)
    (name : String) : List (Nat × Nat) :=
  shape.zipIdx.flatMap fun item =>
    if among item.1 = true then item.1.positions item.2 name else []

/-- The columns a name may stand for; a merged column stands for its parts. -/
def Shape.find
    (shape : Shape)
    (table : Option String)
    (name : String) : List (Nat × Nat) :=
  match table with
  | some aliasName =>
      shape.positions
        (fun binding => !binding.merged && binding.aliasName = some aliasName)
        name
  | none =>
      match (shape.positions Binding.merged name).getLast? with
      | some position => [position]
      | none => shape.positions (fun _ => true) name

/-- What a name stands for, by query, counted outwards, and position. -/
inductive Resolution where
  | field (level binding column : Nat)
  | row (level binding : Nat)
  | ambiguous
  | unknown
  deriving Repr, DecidableEq

/-- The innermost query whose FROM list has the column. -/
def resolveField
    (table : Option String)
    (name : String) : List Shape → Nat → Resolution
  | [], _ => .unknown
  | shape :: outer, level =>
      match shape.find table name with
      | [] => resolveField table name outer (level + 1)
      | [position] => .field level position.1 position.2
      | _ => .ambiguous

/-- The innermost query whose FROM list has the alias. -/
def resolveRow (name : String) : List Shape → Nat → Resolution
  | [], _ => .unknown
  | shape :: outer, level =>
      match shape.findIdx? fun binding =>
          !binding.merged && binding.aliasName = some name with
      | some binding => .row level binding
      | none => resolveRow name outer (level + 1)

/-- A name is a column if it can be, and else a whole row if unqualified. -/
def resolve
    (shapes : List Shape)
    (table : Option String)
    (name : String) : Resolution :=
  match resolveField table name shapes 0, table with
  | .unknown, none => resolveRow name shapes 0
  | found, _ => found

/-- An item, by query and position. -/
def bindingAt
    (shapes : List Shape)
    (level binding : Nat) : Option Binding :=
  shapes[level]?.bind fun shape => shape[binding]?

/-- A column, by query and position. -/
def fieldAt
    (shapes : List Shape)
    (level binding column : Nat) : Option Field :=
  (bindingAt shapes level binding).bind fun found => found.columns[column]?

/-- Whether a name stands for hidden columns. -/
def Resolution.hidden (shapes : List Shape) : Resolution → Bool
  | .field level binding column =>
      (fieldAt shapes level binding column).any Field.hidden
  | .row level binding =>
      (bindingAt shapes level binding).any fun found =>
        found.columns.any Field.hidden
  | .ambiguous => false
  | .unknown => false

/-- The columns that a join merges. -/
def Merging.names
    (merging : Merging)
    (left right : Shape) : List String :=
  match merging with
  | .none => []
  | .using names => names.map Identifier.key
  | .natural =>
      ((left.flatMap Binding.columns).map Field.name).dedup.filter fun name =>
        ((right.flatMap Binding.columns).map Field.name).contains name

/-- Whether a merged column is hidden on one of the sides. -/
def mergesHidden (left right : Shape) (name : String) : Bool :=
  (resolve [left] none name).hidden [left] ||
    (resolve [right] none name).hidden [right]

/-- What the two sides of a join offer together. -/
def joinedShape
    (merging : Merging)
    (left right : Shape) : Shape :=
  left ++ right ++
    [{ aliasName := none
       merged := true
       columns :=
        (merging.names left right).map fun name =>
          ⟨name, mergesHidden left right name⟩ }]

/-- What a FROM list offers. -/
def From.shape (schema : Schema) : From → Shape
  | .nothing => []
  | .table reference => [reference.binding schema]
  | .derived query aliasName columns => [query.binding aliasName columns]
  | .join _ left right merging _ =>
      joinedShape merging (left.shape schema) (right.shape schema)
  | .lateral _ left query aliasName columns _ =>
      joinedShape .none (left.shape schema)
        [query.binding aliasName columns]

/-- What the rows of a set operation offer to its ORDER BY. -/
def Query.outputShape (query : Query) : Shape :=
  [query.binding none []]

/-- A place of a query that names a hidden column, and the name it uses. -/
inductive Disclosure where
  | column (name : String)
  | row (aliasName : String)
  | join (name : String)
  | star
  deriving Repr, DecidableEq

/-- The disclosure of a column reference. -/
def columnDisclosures
    (shapes : List Shape)
    (table : Option Identifier)
    (name : Identifier) : List Disclosure :=
  let found := resolve shapes (table.map Identifier.key) name.key
  if found.hidden shapes = true then
    match found with
    | .row _ _ => [.row name.key]
    | _ => [.column name.key]
  else
    []

/-- The disclosure of a star, which stands for all columns of its query. -/
def starDisclosures : List Shape → List Disclosure
  | [] => []
  | shape :: _ =>
      if (shape.any fun binding => binding.columns.any Field.hidden) = true
      then [.star]
      else []

/-- The disclosures of a join. -/
def joinDisclosures
    (merging : Merging)
    (left right : Shape) : List Disclosure :=
  ((merging.names left right).filter (mergesHidden left right)).map .join

mutual

/-- The disclosures of a query in its scope. -/
def Query.disclosures
    (schema : Schema)
    (shapes : List Shape) : Query → List Disclosure
  | .select _ projections source condition groupBy having orderBy
      bounds =>
      let inner := source.shape schema :: shapes
      source.disclosures schema shapes ++
        projections.disclosures schema inner ++
        condition.disclosures schema inner ++
        groupBy.disclosures schema inner ++
        having.disclosures schema inner ++
        orderBy.disclosures schema inner ++
        bounds.disclosures schema shapes
  | .setOperation _ _ left right orderBy bounds =>
      left.disclosures schema shapes ++
        right.disclosures schema shapes ++
        orderBy.disclosures schema (left.outputShape :: shapes) ++
        bounds.disclosures schema shapes
  | .nested _ query orderBy bounds =>
      query.disclosures schema shapes ++
        orderBy.disclosures schema (query.outputShape :: shapes) ++
        bounds.disclosures schema shapes

/-- The disclosures of an expression in its scope. -/
def Expr.disclosures
    (schema : Schema)
    (shapes : List Shape) : Expr → List Disclosure
  | .column table name => columnDisclosures shapes table name
  | .star => starDisclosures shapes
  | .countAll => []
  | .aliased expr _ => expr.disclosures schema shapes
  | .apply _ args => args.disclosures schema shapes
  | .collective _ args => args.disclosures schema shapes
  | .subquery _ args query =>
      args.disclosures schema shapes ++ query.disclosures schema shapes

/-- The disclosures of expressions in their scope. -/
def Exprs.disclosures
    (schema : Schema)
    (shapes : List Shape) : Exprs → List Disclosure
  | .nil => []
  | .cons head tail =>
      head.disclosures schema shapes ++ tail.disclosures schema shapes

/-- The disclosures of a FROM list in its scope. -/
def From.disclosures
    (schema : Schema)
    (shapes : List Shape) : From → List Disclosure
  | .nothing => []
  | .table _ => []
  | .derived query _ _ => query.disclosures schema shapes
  | .join _ left right merging condition =>
      left.disclosures schema shapes ++
        right.disclosures schema shapes ++
        joinDisclosures merging (left.shape schema) (right.shape schema) ++
        condition.disclosures schema
          (joinedShape merging (left.shape schema) (right.shape schema) ::
            shapes)
  | .lateral _ left query aliasName columns condition =>
      left.disclosures schema shapes ++
        query.disclosures schema (left.shape schema :: shapes) ++
        condition.disclosures schema
          (joinedShape .none (left.shape schema)
              [query.binding aliasName columns] ::
            shapes)

end

end Sql
