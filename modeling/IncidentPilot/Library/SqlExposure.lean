import IncidentPilot.Library.SqlSecrecy

/-!
# Queries that disclose something

A query with disclosures tells two databases apart that differ in hidden columns
only, for some meaning of its operators.  That meaning marks values: an operator
passes marks on, and a query fails as soon as it sees one.  Hidden values are
marked in one database and not in the other.
-/

namespace Sql

/-- Whether one of some values is marked. -/
def anyMarked (values : List Bool) : Bool :=
  values.any id

/-- Whether one of some lists of values has a marked value. -/
def anyMarkedList (values : List (List Bool)) : Bool :=
  values.any anyMarked

/-- A join sees a mark. -/
def Pairing.marked (pairing : Pairing Bool) : Bool :=
  (pairing.merges.any fun pair => pair.1 || pair.2) ||
    anyMarked pairing.condition

/-- Fail when a mark is seen. -/
def unlessMarked {Result : Type} (marked : Bool) (result : Result) :
    Except Unit Result :=
  if marked = true then .error () else .ok result

/-- An answer that failed is a marked value. -/
def failed {Result : Type} : Except Unit Result → Bool
  | .error _ => true
  | .ok _ => false

/-- The positions of all pairs of a join. -/
def allPairs (matrix : List (List (Pairing Bool))) :
    List (Option Nat × Option Nat) :=
  matrix.zipIdx.flatMap fun row =>
    (List.range row.1.length).map fun column =>
      (some row.2, some column)

/-- Operators that pass marks on, in queries that fail when they see one. -/
def markingEngine : Engine Bool Unit where
  null := false
  row := anyMarked
  unresolved _ _ := false
  undefined _ := ()
  apply _ args := anyMarked args
  collective _ args _ _ _ := anyMarked args
  subquery _ args rows := anyMarked args || failed rows
  filter values :=
    unlessMarked (anyMarkedList values) (List.range values.length)
  group _ keys :=
    unlessMarked (anyMarkedList (keys.map Prod.fst))
      ((List.range keys.length).map fun position => [position])
  join _ matrix :=
    unlessMarked (matrix.any fun row => row.any Pairing.marked)
      (allPairs matrix)
  merge _ left right := left || right
  output _ rows bounds :=
    unlessMarked
      (anyMarkedList (rows.map Prod.fst) ||
        anyMarkedList (rows.map Prod.snd) || anyMarked bounds)
      ((rows.map Prod.fst).take 1)
  setOperation _ left right :=
    match left, right with
    | .ok rows, .ok _ => .ok rows
    | _, _ => .error ()

/-- One row in each table, in which the hidden values are marked. -/
def markedDatabase (schema : Schema) : Database Bool :=
  fun table => [fun column => schema.hidden table column]

/-- One row in each table, without marks. -/
def plainDatabase : Database Bool :=
  fun _ => [fun _ => false]

/-- The hidden columns of a tuple are marked. -/
abbrev TupleExposes : List Field → List Bool → Prop :=
  List.Forall₂ fun field value => field.hidden = true → value = true

/-- The hidden columns of a row are marked. -/
abbrev RowExposes : Shape → Row Bool → Prop :=
  List.Forall₂ fun binding tuple => TupleExposes binding.columns tuple

/-- The row at hand of each scope has its hidden columns marked. -/
def LevelsExpose (levels : List (Level Bool)) : Prop :=
  ∀ level ∈ levels,
    ∃ row, level.group.head? = some row ∧ RowExposes level.shape row

/-- Items at the same position of related lists are related. -/
theorem exists_getElem?_of_forall₂
    {Left Right : Type}
    {related : Left → Right → Prop}
    {lefts : List Left}
    {rights : List Right}
    (all : List.Forall₂ related lefts rights)
    {position : Nat}
    {left : Left}
    (found : lefts[position]? = some left) :
    ∃ right, rights[position]? = some right ∧ related left right := by
  have both := getElem?_of_forall₂ all position
  rw [found] at both
  generalize rights[position]? = right at both
  cases both with
  | some related =>
      exact ⟨_, rfl, related⟩

namespace LevelsExpose

variable {levels : List (Level Bool)}

/-- A row whose hidden columns are marked is looked at. -/
theorem single
    {shape : Shape}
    {row : Row Bool}
    (expose : LevelsExpose levels)
    (exposes : RowExposes shape row) :
    LevelsExpose (.single shape row :: levels) := by
  intro level member
  rcases List.mem_cons.mp member with rfl | inLevels
  · exact ⟨row, rfl, exposes⟩
  · exact expose level inLevels

/-- The tuple at hand of an item has its hidden columns marked. -/
theorem tupleAt
    (expose : LevelsExpose levels)
    {level binding : Nat}
    {item : Binding}
    (found :
      bindingAt (levels.map Level.shape) level binding = some item) :
    ∃ tuple,
      Sql.tupleAt levels level binding = some tuple ∧
        TupleExposes item.columns tuple := by
  unfold bindingAt at found
  obtain ⟨shape, isShape, isItem⟩ := Option.bind_eq_some_iff.mp found
  rw [List.getElem?_map] at isShape
  obtain ⟨scope, isScope, rfl⟩ := Option.map_eq_some_iff.mp isShape
  obtain ⟨row, isRow, exposes⟩ :=
    expose scope (List.mem_of_getElem? isScope)
  obtain ⟨tuple, isTuple, exposed⟩ :=
    exists_getElem?_of_forall₂ exposes isItem
  refine ⟨tuple, ?_, exposed⟩
  simp [Sql.tupleAt, rowAt, isScope, isRow, isTuple]

end LevelsExpose

/-- A tuple with a hidden column has a marked value. -/
theorem TupleExposes.anyMarked
    {fields : List Field}
    {tuple : List Bool}
    (exposes : TupleExposes fields tuple)
    (hidden : fields.any Field.hidden = true) :
    Sql.anyMarked tuple = true := by
  obtain ⟨field, member, isHidden⟩ := List.any_eq_true.mp hidden
  obtain ⟨position, found⟩ := List.mem_iff_getElem?.mp member
  obtain ⟨value, isValue, marked⟩ :=
    exists_getElem?_of_forall₂ exposes found
  exact
    List.any_eq_true.mpr
      ⟨value, List.mem_of_getElem? isValue, marked isHidden⟩

/-- A name that stands for hidden columns has a marked value. -/
theorem valueOf_marked
    {levels : List (Level Bool)}
    (expose : LevelsExpose levels)
    {table : Option String}
    {name : String}
    (hidden :
      (resolve (levels.map Level.shape) table name).hidden
        (levels.map Level.shape) = true) :
    valueOf markingEngine levels table name = true := by
  unfold valueOf
  cases found : resolve (levels.map Level.shape) table name with
  | field level binding column =>
      rw [found] at hidden
      simp only [Resolution.hidden, fieldAt, Option.any_eq_true]
        at hidden
      obtain ⟨field, isField, isHidden⟩ := hidden
      obtain ⟨item, isItem, isColumn⟩ :=
        Option.bind_eq_some_iff.mp isField
      obtain ⟨tuple, isTuple, exposes⟩ := expose.tupleAt isItem
      obtain ⟨value, isValue, marked⟩ :=
        exists_getElem?_of_forall₂ exposes isColumn
      simp [isTuple, isValue, marked isHidden]
  | row level binding =>
      rw [found] at hidden
      simp only [Resolution.hidden, Option.any_eq_true] at hidden
      obtain ⟨item, isItem, isHidden⟩ := hidden
      obtain ⟨tuple, isTuple, exposes⟩ := expose.tupleAt isItem
      simp only [isTuple, Option.getD_some]
      exact exposes.anyMarked isHidden
  | ambiguous =>
      rw [found] at hidden
      cases hidden
  | unknown =>
      rw [found] at hidden
      cases hidden

/-- A star over hidden columns has a marked value. -/
theorem starValue_marked
    {levels : List (Level Bool)}
    (expose : LevelsExpose levels)
    (disclosed : starDisclosures (levels.map Level.shape) ≠ []) :
    starValue markingEngine levels = true := by
  cases levels with
  | nil =>
      exact (disclosed rfl).elim
  | cons level outer =>
      obtain ⟨row, isRow, exposes⟩ := expose level List.mem_cons_self
      have hidden :
          (level.shape.any fun binding =>
            binding.columns.any Field.hidden) = true := by
        by_contra none
        simp [starDisclosures, none] at disclosed
      obtain ⟨binding, member, isHidden⟩ := List.any_eq_true.mp hidden
      obtain ⟨position, found⟩ := List.mem_iff_getElem?.mp member
      obtain ⟨tuple, isTuple, exposed⟩ :=
        exists_getElem?_of_forall₂ exposes found
      obtain ⟨value, isValue, marked⟩ :=
        List.any_eq_true.mp (exposed.anyMarked isHidden)
      refine List.any_eq_true.mpr ⟨value, ?_, marked⟩
      simp only [rowAt, List.getElem?_cons_zero, Option.bind_some, isRow,
        Option.getD_some]
      exact
        List.mem_flatten.mpr ⟨tuple, List.mem_of_getElem? isTuple, isValue⟩

/-- All positions are picked. -/
theorem pick_range
    {Item : Type}
    (items : List Item) :
    pick (List.range items.length) items = items := by
  unfold pick
  induction items with
  | nil =>
      rfl
  | cons item items inductionHypothesis =>
      rw [List.length_cons, List.range_succ_eq_map, List.filterMap_cons]
      simp only [List.getElem?_cons_zero, List.filterMap_map]
      exact congrArg (item :: ·) inductionHypothesis

/-- A result that is not an error saw no mark. -/
theorem unlessMarked_ok
    {Result : Type}
    {marked : Bool}
    {result found : Result}
    (succeeded : unlessMarked marked result = .ok found) :
    marked = false ∧ found = result := by
  unfold unlessMarked at succeeded
  split at succeeded
  · cases succeeded
  · rename_i plain
    cases succeeded
    exact ⟨Bool.not_eq_true _ ▸ plain, rfl⟩

/-- Each row is a group of its own. -/
theorem singleton_groups
    {Item : Type}
    (items : List Item) :
    (((List.range items.length).map fun position => [position]).map
        fun positions => pick positions items) =
      items.map fun item => [item] := by
  refine List.ext_getElem? fun position => ?_
  by_cases inside : position < items.length
  · simp [pick, inside]
  · simp [inside]

/-- What the first of two computations returns. -/
theorem ok_of_bind
    {First Second Error : Type}
    {first : Except Error First}
    {second : First → Except Error Second}
    {result : Second}
    (succeeded : (first >>= second) = .ok result) :
    ∃ value, first = .ok value ∧ second value = .ok result := by
  cases first with
  | error error =>
      cases succeeded
  | ok value =>
      exact ⟨value, rfl, succeeded⟩

/-- There are as many scopes as groups. -/
theorem length_groupLevels
    {Value : Type}
    (shape : Shape)
    (groups : List (List (Row Value))) :
    (groupLevels shape groups).length = groups.length :=
  List.length_mapIdx

/-- The scope of the first group. -/
theorem groupLevels_cons
    {Value : Type}
    (shape : Shape)
    (group : List (Row Value))
    (groups : List (List (Row Value))) :
    ∃ rest,
      groupLevels shape (group :: groups) =
        ⟨shape, group, group :: groups, 0⟩ :: rest := by
  unfold groupLevels
  rw [List.mapIdx_cons]
  exact ⟨_, rfl⟩

/-- If no value of some lists is marked, none of one of them is. -/
theorem plain_of_anyMarkedList
    {Item : Type}
    {items : List Item}
    {values : Item → List Bool}
    (plain : anyMarkedList (items.map values) = false)
    {item : Item}
    (member : item ∈ items) :
    anyMarked (values item) = false :=
  Bool.not_eq_true _ ▸
    List.any_eq_false.mp plain _ (List.mem_map_of_mem member)

/-- Renaming columns does not change which of them are hidden. -/
theorem TupleExposes.renamed
    {fields : List Field}
    {tuple : List Bool}
    (exposes : TupleExposes fields tuple)
    (names : List Identifier) :
    TupleExposes (Sql.renamed fields names) tuple := by
  induction exposes generalizing names with
  | nil =>
      exact .nil
  | cons first rest inductionHypothesis =>
      cases names with
      | nil =>
          exact .cons first rest
      | cons name names =>
          exact .cons first (inductionHypothesis names)

/-- A row of a subquery has no hidden columns. -/
theorem derivedRow_exposes
    (query : Query)
    (aliasName : Option Identifier)
    (columns : List Identifier)
    (row : List Bool) :
    RowExposes [query.binding aliasName columns]
      [tupleOf markingEngine (query.outputs.map (Field.mk · false))
        row] := by
  refine .cons (TupleExposes.renamed ?_ columns) .nil
  refine List.forall₂_iff_get.mpr ⟨by simp [tupleOf], ?_⟩
  intro position inFields inTuple hidden
  simp at hidden

/-- A row of a table has its hidden columns marked. -/
theorem tableRow_exposes
    {schema : Schema}
    {reference : TableReference}
    {columns : List String}
    (found : schema.columns reference.name.key = some columns) :
    RowExposes [reference.binding schema]
      [columns.map fun column =>
        schema.hidden reference.name.key column] := by
  refine .cons (TupleExposes.renamed ?_ reference.columns) .nil
  simp only [TableReference.fields, found, Option.getD_some]
  refine
    List.forall₂_map_left_iff.mpr
      (List.forall₂_map_right_iff.mpr
        (List.forall₂_same.mpr fun column _ hidden => hidden))

/-- A merged column that is hidden on one side is marked. -/
theorem mergedPair_marked
    {left right : Shape}
    {leftRow rightRow : Row Bool}
    (lefts : RowExposes left leftRow)
    (rights : RowExposes right rightRow)
    {name : String}
    (hidden : mergesHidden left right name = true) :
    (sideValue markingEngine left leftRow name ||
        sideValue markingEngine right rightRow name) =
      true := by
  have alone : LevelsExpose [] := fun level member => by cases member
  rw [Bool.or_eq_true]
  rcases Bool.or_eq_true _ _ ▸ hidden with inLeft | inRight
  · exact .inl (valueOf_marked (alone.single lefts) inLeft)
  · exact .inr (valueOf_marked (alone.single rights) inRight)

/-- A row of a join has its hidden columns marked when its sides have. -/
theorem joinedRow_exposes
    (kind : String)
    (merging : Merging)
    {left right : Shape}
    {leftRow rightRow : Row Bool}
    (lefts : RowExposes left leftRow)
    (rights : RowExposes right rightRow) :
    RowExposes (joinedShape merging left right)
      (joinedRow markingEngine kind merging left right leftRow
        rightRow) := by
  unfold joinedShape joinedRow mergedPairs
  refine List.rel_append (List.rel_append lefts rights) (.cons ?_ .nil)
  rw [List.map_map]
  refine
    List.forall₂_map_left_iff.mpr
      (List.forall₂_map_right_iff.mpr
        (List.forall₂_same.mpr fun name _ hidden => ?_))
  exact mergedPair_marked lefts rights hidden

/-- What a join merges is plain only if it discloses nothing. -/
theorem joinDisclosures_of_plain
    {merging : Merging}
    {left right : Shape}
    {leftRow rightRow : Row Bool}
    (lefts : RowExposes left leftRow)
    (rights : RowExposes right rightRow)
    (plain :
      ((mergedPairs markingEngine merging left right leftRow
          rightRow).any fun pair => pair.1 || pair.2) =
        false) :
    joinDisclosures merging left right = [] := by
  unfold joinDisclosures
  refine List.map_eq_nil_iff.mpr (List.filter_eq_nil_iff.mpr ?_)
  intro name member hidden
  have pair :=
    List.any_eq_false.mp plain _ (List.mem_map_of_mem member)
  exact pair (mergedPair_marked lefts rights hidden)

/-- The pairs of a join are positions of its matrix. -/
theorem mem_allPairs
    {matrix : List (List (Pairing Bool))}
    {position : Option Nat × Option Nat}
    (member : position ∈ allPairs matrix) :
    ∃ row column pairings,
      position = (some row, some column) ∧
        matrix[row]? = some pairings ∧
        column < pairings.length := by
  obtain ⟨⟨pairings, row⟩, inMatrix, inRow⟩ :=
    List.mem_flatMap.mp member
  obtain ⟨column, inRange, rfl⟩ := List.mem_map.mp inRow
  refine ⟨row, column, pairings, rfl, ?_, List.mem_range.mp inRange⟩
  exact List.mk_mem_zipIdx_iff_getElem?.mp inMatrix

/-- A join whose first rows have a pairing has a pair. -/
theorem allPairs_ne_nil
    {pairing : Pairing Bool}
    {pairings : List (Pairing Bool)}
    {matrix : List (List (Pairing Bool))} :
    allPairs ((pairing :: pairings) :: matrix) ≠ [] := by
  simp [allPairs, List.range_succ_eq_map]

/-- The rows of a join have their hidden columns marked. -/
theorem joinedRows_expose
    (kind : String)
    (merging : Merging)
    {left right : Shape}
    {leftRows unmatched : List (Row Bool)}
    {rightRows : List (List (Row Bool))}
    {matrix : List (List (Pairing Bool))}
    (lefts : ∀ row ∈ leftRows, RowExposes left row)
    (rights : ∀ rows ∈ rightRows, ∀ row ∈ rows, RowExposes right row)
    (fits :
      ∀ (index : Nat) (pairings : List (Pairing Bool)),
        matrix[index]? = some pairings →
        ∃ leftRow rows,
          leftRows[index]? = some leftRow ∧
            rightRows[index]? = some rows ∧
            pairings.length = rows.length)
    {row : Row Bool}
    (member :
      row ∈
        joinedRows markingEngine kind merging left right leftRows
          rightRows unmatched (allPairs matrix)) :
    RowExposes (joinedShape merging left right) row := by
  obtain ⟨position, isPair, rfl⟩ := List.mem_map.mp member
  obtain ⟨index, column, pairings, rfl, found, inside⟩ :=
    mem_allPairs isPair
  obtain ⟨leftRow, rows, isLeft, areRights, sameLength⟩ :=
    fits index pairings found
  have inRows : column < rows.length := by
    omega
  have isRight : rows[column]? = some rows[column] :=
    List.getElem?_eq_getElem inRows
  simp only [Option.bind_some, isLeft, areRights, Option.getD_some,
    isRight]
  exact
    joinedRow_exposes kind merging
      (lefts _ (List.mem_of_getElem? isLeft))
      (rights _ (List.mem_of_getElem? areRights) _
        (List.mem_of_getElem? isRight))

/-- The answers of computations that all succeed. -/
theorem answers_of_mapM
    {Item Result Error : Type}
    {items : List Item}
    {answer : Item → Except Error Result}
    {results : List Result}
    (succeeded : (items.map answer).mapM id = .ok results) :
    List.Forall₂ (fun item result => answer item = .ok result) items
      results := by
  induction items generalizing results with
  | nil =>
      cases succeeded
      exact .nil
  | cons item items inductionHypothesis =>
      rw [List.map_cons, List.mapM_cons] at succeeded
      obtain ⟨result, isResult, rest⟩ := ok_of_bind succeeded
      obtain ⟨others, areOthers, isAll⟩ := ok_of_bind rest
      cases isAll
      exact .cons isResult (inductionHypothesis areOthers)

section

variable (schema : Schema)

/-- A query that does not fail discloses nothing, and has rows. -/
def Query.Exposes (query : Query) : Prop :=
  ∀ (levels : List (Level Bool)) (rows : Rows Bool),
    LevelsExpose levels →
    query.evaluate markingEngine schema (markedDatabase schema) levels =
      .ok rows →
    query.disclosures schema (levels.map Level.shape) = [] ∧ rows ≠ []

/-- An expression that is not marked discloses nothing. -/
def Expr.Exposes (expr : Expr) : Prop :=
  ∀ levels : List (Level Bool),
    LevelsExpose levels →
    expr.evaluate markingEngine schema (markedDatabase schema) levels =
      false →
    expr.disclosures schema (levels.map Level.shape) = []

/-- Expressions that are not marked disclose nothing. -/
def Exprs.Exposes (exprs : Exprs) : Prop :=
  ∀ levels : List (Level Bool),
    LevelsExpose levels →
    anyMarked
        (exprs.evaluate markingEngine schema (markedDatabase schema)
          levels) =
      false →
    exprs.disclosures schema (levels.map Level.shape) = []

/-- A FROM list that does not fail discloses nothing, and has marked rows. -/
def From.Exposes (source : From) : Prop :=
  ∀ (levels : List (Level Bool)) (rows : List (Row Bool)),
    LevelsExpose levels →
    source.evaluate markingEngine schema (markedDatabase schema) levels =
      .ok rows →
    source.disclosures schema (levels.map Level.shape) = [] ∧
      rows ≠ [] ∧ ∀ row ∈ rows, RowExposes (source.shape schema) row

end

section

variable {schema : Schema}

/-- A select that does not fail discloses nothing. -/
theorem Query.Exposes.select
    (clauses : Clauses)
    {projections : Exprs}
    {source : From}
    {condition groupBy having orderBy bounds : Exprs}
    (projected : projections.Exposes schema)
    (sourced : source.Exposes schema)
    (filtered : condition.Exposes schema)
    (grouped : groupBy.Exposes schema)
    (kept : having.Exposes schema)
    (ordered : orderBy.Exposes schema)
    (bounded : bounds.Exposes schema) :
    (Query.select clauses projections source condition groupBy having
      orderBy bounds).Exposes schema := by
  intro levels found expose evaluated
  simp only [Query.evaluate] at evaluated
  obtain ⟨rows, fromSource, evaluated⟩ := ok_of_bind evaluated
  obtain ⟨sourceSilent, nonempty, exposes⟩ :=
    sourced _ _ expose fromSource
  obtain ⟨first, rest, rfl⟩ := List.exists_cons_of_ne_nil nonempty
  have inner :
      LevelsExpose (.single (source.shape schema) first :: levels) :=
    expose.single (exposes first List.mem_cons_self)
  obtain ⟨positions, filters, evaluated⟩ := ok_of_bind evaluated
  obtain ⟨conditionPlain, rfl⟩ := unlessMarked_ok filters
  rw [List.length_map, pick_range] at evaluated
  obtain ⟨groups, groupsRows, evaluated⟩ := ok_of_bind evaluated
  obtain ⟨groupPlain, rfl⟩ := unlessMarked_ok groupsRows
  rw [List.length_map, singleton_groups] at evaluated
  obtain ⟨remaining, keeps, evaluated⟩ := ok_of_bind evaluated
  obtain ⟨havingPlain, rfl⟩ := unlessMarked_ok keeps
  rw [List.length_map, length_groupLevels, pick_range] at evaluated
  obtain ⟨outputPlain, rfl⟩ := unlessMarked_ok evaluated
  rw [Bool.or_eq_false_iff, Bool.or_eq_false_iff, List.map_map,
    List.map_map] at outputPlain
  obtain ⟨⟨projectionPlain, orderPlain⟩, boundsPlain⟩ := outputPlain
  rw [List.map_map] at groupPlain
  obtain ⟨others, levelsAre⟩ :=
    groupLevels_cons (source.shape schema) [first]
      (rest.map fun row => [row])
  rw [List.map_cons, levelsAre] at havingPlain projectionPlain orderPlain
  rw [List.map_cons, levelsAre]
  have outer :
      LevelsExpose
        (⟨source.shape schema, [first],
            [first] :: rest.map fun row => [row], 0⟩ :: levels) := by
    intro level member
    rcases List.mem_cons.mp member with rfl | inLevels
    · exact ⟨first, rfl, exposes first List.mem_cons_self⟩
    · exact expose level inLevels
  refine ⟨?_, by simp⟩
  simp only [Query.disclosures, List.append_eq_nil_iff, and_assoc]
  refine ⟨sourceSilent, ?_, ?_, ?_, ?_, ?_, ?_⟩
  · exact
      projected _ outer
        (plain_of_anyMarkedList projectionPlain List.mem_cons_self)
  · exact
      filtered _ inner
        (plain_of_anyMarkedList conditionPlain List.mem_cons_self)
  · exact
      grouped _ inner
        (plain_of_anyMarkedList groupPlain List.mem_cons_self)
  · exact
      kept _ outer
        (plain_of_anyMarkedList havingPlain List.mem_cons_self)
  · exact
      ordered _ outer
        (plain_of_anyMarkedList orderPlain List.mem_cons_self)
  · exact bounded _ expose boundsPlain

/-- The rows of an operand, in the scope of the ORDER BY of a query. -/
theorem Exprs.Exposes.outputs
    {orderBy : Exprs}
    {query : Query}
    {levels : List (Level Bool)}
    {rows : Rows Bool}
    (ordered : orderBy.Exposes schema)
    (expose : LevelsExpose levels)
    (nonempty : rows ≠ [])
    (plain :
      anyMarkedList
          ((rows.map fun row =>
              (row,
                orderBy.evaluate markingEngine schema
                  (markedDatabase schema)
                  (.single query.outputShape
                      [tupleOf markingEngine
                        (query.outputs.map (Field.mk · false)) row] ::
                    levels))).map
            Prod.snd) =
        false) :
    orderBy.disclosures schema
        (query.outputShape :: levels.map Level.shape) = [] := by
  obtain ⟨first, rest, rfl⟩ := List.exists_cons_of_ne_nil nonempty
  rw [List.map_map] at plain
  refine ordered _ ?_ (plain_of_anyMarkedList plain List.mem_cons_self)
  exact expose.single (derivedRow_exposes query none [] first)

/-- A set operation that does not fail discloses nothing. -/
theorem Query.Exposes.setOperation
    (clauses : Clauses)
    (kind : String)
    {left right : Query}
    {orderBy bounds : Exprs}
    (leftQuery : left.Exposes schema)
    (rightQuery : right.Exposes schema)
    (ordered : orderBy.Exposes schema)
    (bounded : bounds.Exposes schema) :
    (Query.setOperation clauses kind left right orderBy bounds).Exposes
      schema := by
  intro levels found expose evaluated
  simp only [Query.evaluate] at evaluated
  obtain ⟨rows, combined, evaluated⟩ := ok_of_bind evaluated
  simp only [markingEngine] at combined
  split at combined
  · rename_i leftRows rightRows leftFound rightFound
    cases combined
    obtain ⟨leftSilent, nonempty⟩ := leftQuery _ _ expose leftFound
    obtain ⟨rightSilent, -⟩ := rightQuery _ _ expose rightFound
    obtain ⟨outputPlain, rfl⟩ := unlessMarked_ok evaluated
    rw [Bool.or_eq_false_iff, Bool.or_eq_false_iff] at outputPlain
    obtain ⟨⟨-, orderPlain⟩, boundsPlain⟩ := outputPlain
    obtain ⟨first, rest, rfl⟩ := List.exists_cons_of_ne_nil nonempty
    refine ⟨?_, by simp⟩
    simp only [Query.disclosures, List.append_eq_nil_iff, and_assoc]
    exact
      ⟨leftSilent, rightSilent,
        ordered.outputs expose nonempty orderPlain,
        bounded _ expose boundsPlain⟩
  · cases combined

/-- A query in parentheses that does not fail discloses nothing. -/
theorem Query.Exposes.nested
    (clauses : Clauses)
    {query : Query}
    {orderBy bounds : Exprs}
    (inner : query.Exposes schema)
    (ordered : orderBy.Exposes schema)
    (bounded : bounds.Exposes schema) :
    (Query.nested clauses query orderBy bounds).Exposes schema := by
  intro levels found expose evaluated
  simp only [Query.evaluate] at evaluated
  obtain ⟨rows, answered, evaluated⟩ := ok_of_bind evaluated
  obtain ⟨querySilent, nonempty⟩ := inner _ _ expose answered
  obtain ⟨outputPlain, rfl⟩ := unlessMarked_ok evaluated
  rw [Bool.or_eq_false_iff, Bool.or_eq_false_iff] at outputPlain
  obtain ⟨⟨-, orderPlain⟩, boundsPlain⟩ := outputPlain
  obtain ⟨first, rest, rfl⟩ := List.exists_cons_of_ne_nil nonempty
  refine ⟨?_, by simp⟩
  simp only [Query.disclosures, List.append_eq_nil_iff, and_assoc]
  exact
    ⟨querySilent, ordered.outputs expose nonempty orderPlain,
      bounded _ expose boundsPlain⟩

/-- A column reference that is not marked discloses nothing. -/
theorem Expr.Exposes.column
    (table : Option Identifier)
    (name : Identifier) :
    (Expr.column table name).Exposes schema := by
  intro levels expose plain
  simp only [Expr.disclosures, columnDisclosures]
  refine if_neg fun hidden => ?_
  have marked := valueOf_marked expose hidden
  simp only [Expr.evaluate] at plain
  rw [marked] at plain
  cases plain

/-- A star that is not marked discloses nothing. -/
theorem Expr.Exposes.star :
    Expr.star.Exposes schema := by
  intro levels expose plain
  by_contra disclosed
  have marked := starValue_marked expose disclosed
  simp only [Expr.evaluate] at plain
  rw [marked] at plain
  cases plain

/-- A subquery that is not marked discloses nothing. -/
theorem Expr.Exposes.subquery
    (operator : Operator)
    {args : Exprs}
    {query : Query}
    (given : args.Exposes schema)
    (inner : query.Exposes schema) :
    (Expr.subquery operator args query).Exposes schema := by
  intro levels expose plain
  simp only [Expr.evaluate, markingEngine, Bool.or_eq_false_iff] at plain
  obtain ⟨argsPlain, succeeded⟩ := plain
  refine List.append_eq_nil_iff.mpr ⟨given _ expose argsPlain, ?_⟩
  cases answered :
      query.evaluate markingEngine schema (markedDatabase schema)
        levels with
  | error error =>
      simp only [markingEngine] at answered
      rw [answered] at succeeded
      cases succeeded
  | ok rows =>
      exact (inner _ _ expose answered).1

/-- Expressions that are not marked disclose nothing. -/
theorem Exprs.Exposes.cons
    {head : Expr}
    {tail : Exprs}
    (first : head.Exposes schema)
    (rest : tail.Exposes schema) :
    (Exprs.cons head tail).Exposes schema := by
  intro levels expose plain
  simp only [Exprs.evaluate, anyMarked, List.any_cons,
    Bool.or_eq_false_iff, id] at plain
  exact
    List.append_eq_nil_iff.mpr
      ⟨first _ expose plain.1, rest _ expose plain.2⟩

/-- A table has marked rows. -/
theorem From.Exposes.table
    (reference : TableReference) :
    (From.table reference).Exposes schema := by
  intro levels found expose evaluated
  simp only [From.evaluate] at evaluated
  split at evaluated
  · cases evaluated
  · rename_i columns known
    cases evaluated
    refine ⟨rfl, by simp [markedDatabase], fun row member => ?_⟩
    obtain rfl := List.mem_singleton.mp member
    exact tableRow_exposes known

/-- A subquery that does not fail discloses nothing, and has rows. -/
theorem From.Exposes.derived
    {query : Query}
    (inner : query.Exposes schema)
    (aliasName : Option Identifier)
    (columns : List Identifier) :
    (From.derived query aliasName columns).Exposes schema := by
  intro levels found expose evaluated
  simp only [From.evaluate] at evaluated
  obtain ⟨rows, answered, evaluated⟩ := ok_of_bind evaluated
  obtain ⟨silent, nonempty⟩ := inner _ _ expose answered
  cases evaluated
  refine ⟨silent, by simpa using nonempty, fun row member => ?_⟩
  obtain ⟨values, -, rfl⟩ := List.mem_map.mp member
  exact derivedRow_exposes query aliasName columns values

/-- A join that does not fail discloses nothing, and has marked rows. -/
theorem From.Exposes.join
    (kind : String)
    {left right : From}
    (merging : Merging)
    {condition : Exprs}
    (leftSource : left.Exposes schema)
    (rightSource : right.Exposes schema)
    (conditioned : condition.Exposes schema) :
    (From.join kind left right merging condition).Exposes schema := by
  intro levels found expose evaluated
  simp only [From.evaluate] at evaluated
  obtain ⟨leftRows, leftFound, evaluated⟩ := ok_of_bind evaluated
  obtain ⟨rightRows, rightFound, evaluated⟩ := ok_of_bind evaluated
  obtain ⟨leftSilent, leftNonempty, lefts⟩ :=
    leftSource _ _ expose leftFound
  obtain ⟨rightSilent, rightNonempty, rights⟩ :=
    rightSource _ _ expose rightFound
  obtain ⟨positions, paired, evaluated⟩ := ok_of_bind evaluated
  obtain ⟨plain, rfl⟩ := unlessMarked_ok paired
  cases evaluated
  obtain ⟨leftRow, leftRest, rfl⟩ :=
    List.exists_cons_of_ne_nil leftNonempty
  obtain ⟨rightRow, rightRest, rfl⟩ :=
    List.exists_cons_of_ne_nil rightNonempty
  simp only [List.map_cons, List.any_cons, Bool.or_eq_false_iff,
    Pairing.marked] at plain
  obtain ⟨⟨⟨mergePlain, conditionPlain⟩, -⟩, -⟩ := plain
  have leftExposes := lefts leftRow List.mem_cons_self
  have rightExposes := rights rightRow List.mem_cons_self
  have mergeSilent :=
    joinDisclosures_of_plain leftExposes rightExposes mergePlain
  have conditionSilent :=
    conditioned _
      (expose.single
        (joinedRow_exposes kind merging leftExposes rightExposes))
      conditionPlain
  refine ⟨?_, ?_, fun row member => ?_⟩
  · simp only [From.disclosures, List.append_eq_nil_iff, and_assoc]
    exact ⟨leftSilent, rightSilent, mergeSilent, conditionSilent⟩
  · unfold joinedRows
    rw [Ne, List.map_eq_nil_iff]
    exact allPairs_ne_nil
  · refine joinedRows_expose kind merging lefts ?_ ?_ member
    · intro rows areRights
      obtain ⟨-, -, rfl⟩ := List.mem_map.mp areRights
      exact rights
    · intro index pairings isRow
      rw [List.getElem?_map] at isRow
      obtain ⟨row, isLeft, rfl⟩ := Option.map_eq_some_iff.mp isRow
      exact
        ⟨row, _, isLeft, by rw [List.getElem?_map, isLeft]; rfl,
          List.length_map _⟩

/-- So has a join with a LATERAL subquery. -/
theorem From.Exposes.lateral
    (kind : String)
    {left : From}
    {query : Query}
    {condition : Exprs}
    (leftSource : left.Exposes schema)
    (inner : query.Exposes schema)
    (aliasName : Option Identifier)
    (columns : List Identifier)
    (conditioned : condition.Exposes schema) :
    (From.lateral kind left query aliasName columns condition).Exposes
      schema := by
  intro levels found expose evaluated
  simp only [From.evaluate] at evaluated
  obtain ⟨leftRows, leftFound, evaluated⟩ := ok_of_bind evaluated
  obtain ⟨leftSilent, leftNonempty, lefts⟩ :=
    leftSource _ _ expose leftFound
  obtain ⟨answers, answered, evaluated⟩ := ok_of_bind evaluated
  have each := answers_of_mapM answered
  obtain ⟨positions, paired, evaluated⟩ := ok_of_bind evaluated
  obtain ⟨plain, rfl⟩ := unlessMarked_ok paired
  cases evaluated
  have rights :
      ∀ rows ∈
          answers.map fun rows =>
            rows.map fun row =>
              [tupleOf markingEngine
                (query.outputs.map (Field.mk · false)) row],
        ∀ row ∈ rows, RowExposes [query.binding aliasName columns] row := by
    intro rows areRights row member
    obtain ⟨values, -, rfl⟩ := List.mem_map.mp areRights
    obtain ⟨value, -, rfl⟩ := List.mem_map.mp member
    exact derivedRow_exposes query aliasName columns value
  obtain ⟨leftRow, leftRest, rfl⟩ :=
    List.exists_cons_of_ne_nil leftNonempty
  cases each with
  | @cons _ rows _ answersRest first rest =>
      have leftExposes := lefts leftRow List.mem_cons_self
      obtain ⟨querySilent, nonempty⟩ :=
        inner _ _ (expose.single leftExposes) first
      obtain ⟨values, valuesRest, rfl⟩ :=
        List.exists_cons_of_ne_nil nonempty
      simp only [List.map_cons, List.zip_cons_cons, List.any_cons,
        Bool.or_eq_false_iff, Pairing.marked] at plain
      obtain ⟨⟨⟨-, conditionPlain⟩, -⟩, -⟩ := plain
      have conditionSilent :=
        conditioned _
          (expose.single
            (joinedRow_exposes kind .none leftExposes
              (derivedRow_exposes query aliasName columns values)))
          conditionPlain
      refine ⟨?_, ?_, fun row member => ?_⟩
      · simp only [From.disclosures, List.append_eq_nil_iff, and_assoc]
        exact ⟨leftSilent, querySilent, conditionSilent⟩
      · unfold joinedRows
        rw [Ne, List.map_eq_nil_iff]
        exact allPairs_ne_nil
      · refine joinedRows_expose kind .none lefts rights ?_ member
        intro index pairings isRow
        rw [List.getElem?_map] at isRow
        obtain ⟨⟨row, rows⟩, isPart, rfl⟩ :=
          Option.map_eq_some_iff.mp isRow
        rw [List.getElem?_zip_eq_some] at isPart
        exact ⟨row, rows, isPart.1, isPart.2, List.length_map _⟩

mutual

/-- No query hides what it discloses. -/
theorem Query.exposes : (query : Query) → query.Exposes schema
  | .select clauses projections source condition groupBy having orderBy
      bounds =>
      .select clauses projections.exposes source.exposes
        condition.exposes groupBy.exposes having.exposes orderBy.exposes
        bounds.exposes
  | .setOperation clauses kind left right orderBy bounds =>
      .setOperation clauses kind left.exposes right.exposes
        orderBy.exposes bounds.exposes
  | .nested clauses query orderBy bounds =>
      .nested clauses query.exposes orderBy.exposes bounds.exposes

/-- No expression hides what it discloses. -/
theorem Expr.exposes : (expr : Expr) → expr.Exposes schema
  | .column table name => .column table name
  | .star => .star
  | .countAll => fun _ _ _ => rfl
  | .aliased expr _ => fun levels expose plain =>
      expr.exposes levels expose plain
  | .apply _ args => fun levels expose plain =>
      args.exposes levels expose plain
  | .collective _ args => fun levels expose plain =>
      args.exposes levels expose plain
  | .subquery operator args query =>
      .subquery operator args.exposes query.exposes

/-- No list of expressions hides what it discloses. -/
theorem Exprs.exposes : (exprs : Exprs) → exprs.Exposes schema
  | .nil => fun _ _ _ => rfl
  | .cons head tail => .cons head.exposes tail.exposes

/-- No FROM list hides what it discloses. -/
theorem From.exposes : (source : From) → source.Exposes schema
  | .nothing => fun _ rows _ evaluated => by
      cases evaluated
      refine ⟨rfl, by simp, fun row member => ?_⟩
      obtain rfl := List.mem_singleton.mp member
      exact .nil
  | .table reference => .table reference
  | .derived query aliasName columns =>
      .derived query.exposes aliasName columns
  | .join kind left right merging condition =>
      .join kind merging left.exposes right.exposes condition.exposes
  | .lateral kind left query aliasName columns condition =>
      .lateral kind left.exposes query.exposes aliasName columns
        condition.exposes

end

end

end Sql
