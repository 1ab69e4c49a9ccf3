import IncidentPilot.Library.SqlExecution
import Mathlib.Data.List.Forall2

/-!
# Queries that disclose nothing

A query without disclosures returns the same rows from two databases that differ
in hidden columns only.  Rows of FROM lists agree when they agree in every column
that is not hidden; the proof follows the evaluation, one case per construct.
-/

namespace Sql

variable {Value Error : Type}

/-- Related items have the same image. -/
theorem map_eq_of_forall₂
    {Left Right Image : Type}
    {related : Left → Right → Prop}
    {lefts : List Left}
    {rights : List Right}
    {leftImage : Left → Image}
    {rightImage : Right → Image}
    (all : List.Forall₂ related lefts rights)
    (same :
      ∀ left right, related left right →
        leftImage left = rightImage right) :
    lefts.map leftImage = rights.map rightImage := by
  induction all with
  | nil =>
      rfl
  | cons first _ inductionHypothesis =>
      rw [List.map_cons, List.map_cons, same _ _ first,
        inductionHypothesis]

/-- Items at the same position are related. -/
theorem getElem?_of_forall₂
    {Left Right : Type}
    {related : Left → Right → Prop}
    {lefts : List Left}
    {rights : List Right}
    (all : List.Forall₂ related lefts rights)
    (position : Nat) :
    Option.Rel related lefts[position]? rights[position]? := by
  induction all generalizing position with
  | nil =>
      exact .none
  | cons first _ inductionHypothesis =>
      cases position with
      | zero =>
          exact .some first
      | succ position =>
          exact inductionHypothesis position

/-- The items at some positions are related. -/
theorem pick_of_forall₂
    {Left Right : Type}
    {related : Left → Right → Prop}
    {lefts : List Left}
    {rights : List Right}
    (all : List.Forall₂ related lefts rights)
    (positions : List Nat) :
    List.Forall₂ related (pick positions lefts)
      (pick positions rights) := by
  induction positions with
  | nil =>
      exact .nil
  | cons position rest inductionHypothesis =>
      unfold pick at inductionHypothesis ⊢
      rw [List.filterMap_cons, List.filterMap_cons]
      have found := getElem?_of_forall₂ all position
      generalize lefts[position]? = left at found ⊢
      generalize rights[position]? = right at found ⊢
      cases found with
      | none =>
          exact inductionHypothesis
      | some both =>
          exact .cons both inductionHypothesis

/-- Two tuples agree in the columns that are not hidden. -/
def TupleAgrees : List Field → List Value → List Value → Prop
  | [], [], [] => True
  | field :: fields, value :: values, other :: others =>
      (field.hidden = false → value = other) ∧
        TupleAgrees fields values others
  | _, _, _ => False

/-- Two rows of a FROM list agree in the columns that are not hidden. -/
def RowAgrees : Shape → Row Value → Row Value → Prop
  | [], [], [] => True
  | binding :: shape, tuple :: row, other :: others =>
      TupleAgrees binding.columns tuple other ∧ RowAgrees shape row others
  | _, _, _ => False

/-- Two scopes agree: they differ in hidden columns of their rows only. -/
structure LevelAgrees (left right : Level Value) : Prop where
  shape : left.shape = right.shape
  position : left.position = right.position
  group : List.Forall₂ (RowAgrees left.shape) left.group right.group
  groups :
    List.Forall₂ (List.Forall₂ (RowAgrees left.shape)) left.groups
      right.groups

/-- Scopes agree, query by query. -/
abbrev LevelsAgree :
    List (Level Value) → List (Level Value) → Prop :=
  List.Forall₂ LevelAgrees

/-- Two FROM lists end with the same error or with rows that agree. -/
def SourceAgrees
    (shape : Shape) :
    Except Error (List (Row Value)) →
      Except Error (List (Row Value)) →
      Prop
  | .error error, .error other => error = other
  | .ok rows, .ok others => List.Forall₂ (RowAgrees shape) rows others
  | _, _ => False

/-- Two databases agree in every column that is not hidden. -/
def DatabaseAgrees
    (schema : Schema)
    (left right : Database Value) : Prop :=
  ∀ table columns,
    schema.columns table = some columns →
    List.Forall₂
      (fun (row other : String → Value) =>
        ∀ column ∈ columns,
          schema.hidden table column = false →
          row column = other column)
      (left table) (right table)

namespace SourceAgrees

/-- What is computed from rows that agree is the same. -/
theorem bind_eq
    {Result : Type}
    {shape : Shape}
    {rows others : Except Error (List (Row Value))}
    {next otherNext : List (Row Value) → Except Error Result}
    (agrees : SourceAgrees shape rows others)
    (same :
      ∀ rows others,
        List.Forall₂ (RowAgrees shape) rows others →
        next rows = otherNext others) :
    (rows >>= next) = (others >>= otherNext) := by
  cases rows with
  | error error =>
      cases others with
      | error other =>
          cases agrees
          rfl
      | ok others =>
          exact agrees.elim
  | ok rows =>
      cases others with
      | error other =>
          exact agrees.elim
      | ok others =>
          exact same rows others agrees

/-- Rows that are computed from rows that agree agree. -/
theorem bind
    {shape nextShape : Shape}
    {rows others : Except Error (List (Row Value))}
    {next otherNext :
      List (Row Value) → Except Error (List (Row Value))}
    (agrees : SourceAgrees shape rows others)
    (nextAgrees :
      ∀ rows others,
        List.Forall₂ (RowAgrees shape) rows others →
        SourceAgrees nextShape (next rows) (otherNext others)) :
    SourceAgrees nextShape (rows >>= next) (others >>= otherNext) := by
  cases rows with
  | error error =>
      cases others with
      | error other =>
          exact agrees
      | ok others =>
          exact agrees.elim
  | ok rows =>
      cases others with
      | error other =>
          exact agrees.elim
      | ok others =>
          exact nextAgrees rows others agrees

/-- Rows that are computed from the same value agree. -/
theorem bind_self
    {Given : Type}
    {shape : Shape}
    (given : Except Error Given)
    {next otherNext : Given → Except Error (List (Row Value))}
    (nextAgrees :
      ∀ value, SourceAgrees shape (next value) (otherNext value)) :
    SourceAgrees shape (given >>= next) (given >>= otherNext) := by
  cases given with
  | error error =>
      rfl
  | ok value =>
      exact nextAgrees value

end SourceAgrees

namespace TupleAgrees

/-- A tuple agrees with itself. -/
theorem refl
    {fields : List Field}
    {values : List Value}
    (fits : values.length = fields.length) :
    TupleAgrees fields values values := by
  induction fields generalizing values with
  | nil =>
      obtain rfl := List.length_eq_zero_iff.mp fits
      trivial
  | cons field fields inductionHypothesis =>
      cases values with
      | nil =>
          cases fits
      | cons value values =>
          exact
            ⟨fun _ => rfl,
              inductionHypothesis (Nat.succ.inj fits)⟩

/-- Tuples without hidden columns are the same. -/
theorem eq
    {fields : List Field}
    {values others : List Value}
    (agrees : TupleAgrees fields values others)
    (visible : fields.any Field.hidden = false) :
    values = others := by
  induction fields generalizing values others with
  | nil =>
      cases values with
      | nil =>
          cases others with
          | nil =>
              rfl
          | cons other others =>
              exact agrees.elim
      | cons value values =>
          exact agrees.elim
  | cons field fields inductionHypothesis =>
      rw [List.any_cons, Bool.or_eq_false_iff] at visible
      cases values with
      | nil =>
          exact agrees.elim
      | cons value values =>
          cases others with
          | nil =>
              exact agrees.elim
          | cons other others =>
              rw [agrees.1 visible.1,
                inductionHypothesis agrees.2 visible.2]

/-- Columns that are not hidden have the same value. -/
theorem getElem?
    {fields : List Field}
    {values others : List Value}
    (agrees : TupleAgrees fields values others)
    {column : Nat}
    (visible : (fields[column]?).any Field.hidden = false) :
    values[column]? = others[column]? := by
  induction fields generalizing values others column with
  | nil =>
      rw [agrees.eq rfl]
  | cons field fields inductionHypothesis =>
      cases values with
      | nil =>
          exact agrees.elim
      | cons value values =>
          cases others with
          | nil =>
              exact agrees.elim
          | cons other others =>
              cases column with
              | zero =>
                  have shown : field.hidden = false := by
                    simpa using visible
                  simp [agrees.1 shown]
              | succ column =>
                  simpa using
                    inductionHypothesis agrees.2 (by simpa using visible)

/-- Renaming columns does not change which of them are hidden. -/
theorem renamed
    {fields : List Field}
    {values others : List Value}
    (agrees : TupleAgrees fields values others)
    (names : List Identifier) :
    TupleAgrees (Sql.renamed fields names) values others := by
  induction fields generalizing values others names with
  | nil =>
      exact agrees
  | cons field fields inductionHypothesis =>
      cases names with
      | nil =>
          exact agrees
      | cons name names =>
          cases values with
          | nil =>
              exact agrees.elim
          | cons value values =>
              cases others with
              | nil =>
                  exact agrees.elim
              | cons other others =>
                  exact ⟨agrees.1, inductionHypothesis agrees.2 names⟩

end TupleAgrees

namespace RowAgrees

/-- Rows of two FROM lists, side by side. -/
theorem append
    {shape moreShape : Shape}
    {row other more others : Row Value}
    (first : RowAgrees shape row other)
    (second : RowAgrees moreShape more others) :
    RowAgrees (shape ++ moreShape) (row ++ more) (other ++ others) := by
  induction shape generalizing row other with
  | nil =>
      cases row with
      | nil =>
          cases other with
          | nil =>
              exact second
          | cons tuple rest =>
              exact first.elim
      | cons tuple rest =>
          exact first.elim
  | cons binding shape inductionHypothesis =>
      cases row with
      | nil =>
          exact first.elim
      | cons tuple row =>
          cases other with
          | nil =>
              exact first.elim
          | cons otherTuple other =>
              exact ⟨first.1, inductionHypothesis first.2⟩

/-- The items of two rows agree. -/
theorem getElem?
    {shape : Shape}
    {row other : Row Value}
    (agrees : RowAgrees shape row other)
    (binding : Nat) :
    Option.Rel
      (TupleAgrees ((shape[binding]?).elim [] Binding.columns))
      row[binding]? other[binding]? := by
  induction shape generalizing row other binding with
  | nil =>
      cases row with
      | nil =>
          cases other with
          | nil =>
              exact .none
          | cons tuple rest =>
              exact agrees.elim
      | cons tuple rest =>
          exact agrees.elim
  | cons first shape inductionHypothesis =>
      cases row with
      | nil =>
          exact agrees.elim
      | cons tuple row =>
          cases other with
          | nil =>
              exact agrees.elim
          | cons otherTuple other =>
              cases binding with
              | zero =>
                  exact .some agrees.1
              | succ binding =>
                  exact inductionHypothesis agrees.2 binding

/-- Rows without hidden columns are the same. -/
theorem eq
    {shape : Shape}
    {row other : Row Value}
    (agrees : RowAgrees shape row other)
    (visible :
      (shape.any fun binding => binding.columns.any Field.hidden) =
        false) :
    row = other := by
  induction shape generalizing row other with
  | nil =>
      cases row with
      | nil =>
          cases other with
          | nil =>
              rfl
          | cons tuple rest =>
              exact agrees.elim
      | cons tuple rest =>
          exact agrees.elim
  | cons binding shape inductionHypothesis =>
      rw [List.any_cons, Bool.or_eq_false_iff] at visible
      cases row with
      | nil =>
          exact agrees.elim
      | cons tuple row =>
          cases other with
          | nil =>
              exact agrees.elim
          | cons otherTuple other =>
              rw [agrees.1.eq visible.1,
                inductionHypothesis agrees.2 visible.2]

/-- The row that stands in for a missing side agrees with itself. -/
theorem nullRow
    (engine : Engine Value Error)
    (shape : Shape) :
    RowAgrees shape (Sql.nullRow engine shape)
      (Sql.nullRow engine shape) := by
  induction shape with
  | nil =>
      trivial
  | cons binding shape inductionHypothesis =>
      exact ⟨.refl (by simp), inductionHypothesis⟩

end RowAgrees

namespace LevelsAgree

variable {levels others : List (Level Value)}

/-- Scopes that agree offer the same. -/
theorem shapes
    (agree : LevelsAgree levels others) :
    levels.map Level.shape = others.map Level.shape :=
  map_eq_of_forall₂ agree fun _ _ both => both.shape

/-- There are as many. -/
theorem length
    (agree : LevelsAgree levels others) :
    levels.length = others.length :=
  List.Forall₂.length_eq agree

/-- Their rows at hand agree. -/
theorem rowAt
    (agree : LevelsAgree levels others)
    (level : Nat) :
    Option.Rel
      (RowAgrees (((levels.map Level.shape)[level]?).getD []))
      (Sql.rowAt levels level) (Sql.rowAt others level) := by
  unfold Sql.rowAt
  have found := getElem?_of_forall₂ agree level
  rw [List.getElem?_map]
  generalize levels[level]? = left at found ⊢
  generalize others[level]? = right at found ⊢
  cases found with
  | none =>
      exact .none
  | @some left right both =>
      have group := both.group
      change
        Option.Rel (RowAgrees left.shape) left.group.head?
          right.group.head?
      generalize left.group = rows at group ⊢
      generalize right.group = otherRows at group ⊢
      cases group with
      | nil =>
          exact .none
      | cons first rest =>
          exact .some first

/-- The items of their rows at hand agree. -/
theorem tupleAt
    (agree : LevelsAgree levels others)
    (level binding : Nat) :
    Option.Rel
      (TupleAgrees
        ((bindingAt (levels.map Level.shape) level binding).elim []
          Binding.columns))
      (Sql.tupleAt levels level binding)
      (Sql.tupleAt others level binding) := by
  unfold Sql.tupleAt bindingAt
  have found := agree.rowAt level
  generalize Sql.rowAt levels level = row at found ⊢
  generalize Sql.rowAt others level = other at found ⊢
  cases found with
  | none =>
      exact .none
  | @some row other both =>
      have items := both.getElem? binding
      generalize (levels.map Level.shape)[level]? = shape at items ⊢
      cases shape with
      | none =>
          simpa using items
      | some shape =>
          simpa using items

/-- The rows of their groups at hand agree. -/
theorem groupAt
    (agree : LevelsAgree levels others)
    (level : Nat) :
    List.Forall₂
      (RowAgrees (((levels.map Level.shape)[level]?).getD []))
      (Sql.groupAt levels level) (Sql.groupAt others level) := by
  unfold Sql.groupAt
  have found := getElem?_of_forall₂ agree level
  rw [List.getElem?_map]
  generalize levels[level]? = left at found ⊢
  generalize others[level]? = right at found ⊢
  cases found with
  | none =>
      exact .nil
  | some both =>
      exact both.group

/-- The scope of one row agrees when the rows do. -/
theorem single
    {shape : Shape}
    {row other : Row Value}
    (agree : LevelsAgree levels others)
    (rows : RowAgrees shape row other) :
    LevelsAgree (.single shape row :: levels)
      (.single shape other :: others) :=
  .cons
    ⟨rfl, rfl, .cons rows .nil, .cons (.cons rows .nil) .nil⟩ agree

/-- They agree when one of them looks at other rows that agree. -/
theorem focus
    {row other : Row Value}
    (agree : LevelsAgree levels others)
    (level : Nat)
    (rows :
      RowAgrees (((levels.map Level.shape)[level]?).getD []) row other) :
    LevelsAgree (Sql.focus levels level row)
      (Sql.focus others level other) := by
  unfold Sql.focus
  induction agree generalizing level with
  | nil =>
      rw [List.modify_nil, List.modify_nil]
      exact .nil
  | cons first rest inductionHypothesis =>
      cases level with
      | zero =>
          rw [List.modify_zero_cons, List.modify_zero_cons,
            ← first.shape]
          exact single rest rows
      | succ level =>
          rw [List.modify_succ_cons, List.modify_succ_cons]
          exact .cons first (inductionHypothesis level rows)

end LevelsAgree

/-- Looking at another row does not change what is offered. -/
theorem focus_shapes
    (levels : List (Level Value))
    (level : Nat)
    (row : Row Value) :
    (focus levels level row).map Level.shape =
      levels.map Level.shape := by
  unfold focus
  induction levels generalizing level with
  | nil =>
      rw [List.modify_nil]
  | cons first rest inductionHypothesis =>
      cases level with
      | zero =>
          rw [List.modify_zero_cons]
          rfl
      | succ level =>
          rw [List.modify_succ_cons, List.map_cons,
            inductionHypothesis, List.map_cons]

/-- The scopes of groups that agree. -/
theorem groupLevels_agree
    {shape : Shape}
    {groups others : List (List (Row Value))}
    (agree :
      List.Forall₂ (List.Forall₂ (RowAgrees shape)) groups others) :
    List.Forall₂
      (fun level other => level.shape = shape ∧ LevelAgrees level other)
      (groupLevels shape groups) (groupLevels shape others) := by
  unfold groupLevels
  have length := agree.length_eq
  refine List.forall₂_iff_get.mpr ⟨by simp [length], ?_⟩
  intro position inLeft inRight
  have both := (List.forall₂_iff_get.mp agree).2 position
    (by simpa using inLeft) (by simpa using inRight)
  simp only [List.get_eq_getElem, List.getElem_mapIdx] at both ⊢
  exact ⟨trivial, rfl, rfl, both, agree⟩

section

variable {levels others : List (Level Value)}
variable (engine : Engine Value Error)

/-- A name that does not stand for hidden columns has the same value. -/
theorem valueOf_agrees
    (agree : LevelsAgree levels others)
    {table : Option String}
    {name : String}
    (visible :
      (resolve (levels.map Level.shape) table name).hidden
        (levels.map Level.shape) = false) :
    valueOf engine levels table name =
      valueOf engine others table name := by
  unfold valueOf
  rw [← agree.shapes]
  cases found : resolve (levels.map Level.shape) table name with
  | field level binding column =>
      rw [found] at visible
      have tuples := agree.tupleAt level binding
      simp only [Resolution.hidden, fieldAt] at visible
      dsimp only
      generalize bindingAt (levels.map Level.shape) level binding = item
        at tuples visible
      generalize tupleAt levels level binding = tuple at tuples ⊢
      generalize tupleAt others level binding = other at tuples ⊢
      cases tuples with
      | none =>
          rfl
      | @some tuple other both =>
          have same : tuple[column]? = other[column]? := by
            refine both.getElem? ?_
            cases item with
            | none =>
                rfl
            | some item =>
                exact visible
          simp only [Option.bind_some, same]
  | row level binding =>
      rw [found] at visible
      have tuples := agree.tupleAt level binding
      simp only [Resolution.hidden] at visible
      dsimp only
      generalize bindingAt (levels.map Level.shape) level binding = item
        at tuples visible
      generalize tupleAt levels level binding = tuple at tuples ⊢
      generalize tupleAt others level binding = other at tuples ⊢
      cases tuples with
      | none =>
          rfl
      | @some tuple other both =>
          have same : tuple = other := by
            refine both.eq ?_
            cases item with
            | none =>
                rfl
            | some item =>
                exact visible
          rw [same]
  | ambiguous =>
      rfl
  | unknown =>
      rfl

/-- A star over columns that are not hidden has the same value. -/
theorem starValue_agrees
    (agree : LevelsAgree levels others)
    (silent : starDisclosures (levels.map Level.shape) = []) :
    starValue engine levels = starValue engine others := by
  unfold starValue
  have rows := agree.rowAt 0
  have same : rowAt levels 0 = rowAt others 0 := by
    generalize levels.map Level.shape = shapes at rows silent
    generalize rowAt levels 0 = row at rows ⊢
    generalize rowAt others 0 = other at rows ⊢
    cases rows with
    | none =>
        rfl
    | some both =>
        cases shapes with
        | nil =>
            rw [both.eq rfl]
        | cons shape outer =>
            rw [both.eq (by simpa [starDisclosures] using silent)]
  rw [same]

/-- A column that is not hidden has the same value on its side of a join. -/
theorem sideValue_agrees
    {shape : Shape}
    {row other : Row Value}
    (rows : RowAgrees shape row other)
    {name : String}
    (visible : (resolve [shape] none name).hidden [shape] = false) :
    sideValue engine shape row name = sideValue engine shape other name :=
  valueOf_agrees engine (LevelsAgree.single .nil rows) visible

/-- The merged columns of a join have the same values. -/
theorem mergedPairs_agrees
    {merging : Merging}
    {left right : Shape}
    {leftRow leftOther rightRow rightOther : Row Value}
    (silent : joinDisclosures merging left right = [])
    (leftRows : RowAgrees left leftRow leftOther)
    (rightRows : RowAgrees right rightRow rightOther) :
    mergedPairs engine merging left right leftRow rightRow =
      mergedPairs engine merging left right leftOther rightOther := by
  unfold mergedPairs
  refine List.map_congr_left fun name member => ?_
  have visible : mergesHidden left right name = false := by
    have absent :
        (merging.names left right).filter (mergesHidden left right) =
          [] :=
      List.map_eq_nil_iff.mp silent
    have := List.filter_eq_nil_iff.mp absent name member
    simpa using this
  rw [mergesHidden, Bool.or_eq_false_iff] at visible
  rw [sideValue_agrees engine leftRows visible.1,
    sideValue_agrees engine rightRows visible.2]

/-- The rows of a join agree when their sides do. -/
theorem joinedRow_agrees
    (kind : String)
    {merging : Merging}
    {left right : Shape}
    {leftRow leftOther rightRow rightOther : Row Value}
    (silent : joinDisclosures merging left right = [])
    (leftRows : RowAgrees left leftRow leftOther)
    (rightRows : RowAgrees right rightRow rightOther) :
    RowAgrees (joinedShape merging left right)
      (joinedRow engine kind merging left right leftRow rightRow)
      (joinedRow engine kind merging left right leftOther
        rightOther) := by
  unfold joinedShape joinedRow
  rw [mergedPairs_agrees engine silent leftRows rightRows]
  refine (leftRows.append rightRows).append ⟨.refl ?_, trivial⟩
  simp [mergedPairs]

/-- A row at a position, or the one in its place, agrees. -/
theorem rowOrNull_agrees
    {shape : Shape}
    {rows otherRows : List (Row Value)}
    (agree : List.Forall₂ (RowAgrees shape) rows otherRows)
    (position : Option Nat) :
    RowAgrees shape
      ((position.bind fun index => rows[index]?).getD
        (nullRow engine shape))
      ((position.bind fun index => otherRows[index]?).getD
        (nullRow engine shape)) := by
  cases position with
  | none =>
      exact .nullRow engine shape
  | some index =>
      have found := getElem?_of_forall₂ agree index
      simp only [Option.bind_some]
      generalize rows[index]? = row at found ⊢
      generalize otherRows[index]? = other at found ⊢
      cases found with
      | none =>
          exact .nullRow engine shape
      | some both =>
          exact both

/-- The rows of a join agree when those of its sides do. -/
theorem joinedRows_agrees
    (kind : String)
    {merging : Merging}
    {left right : Shape}
    {leftRows leftOthers unmatched otherUnmatched : List (Row Value)}
    {rightRows rightOthers : List (List (Row Value))}
    (silent : joinDisclosures merging left right = [])
    (lefts : List.Forall₂ (RowAgrees left) leftRows leftOthers)
    (rights :
      List.Forall₂ (List.Forall₂ (RowAgrees right)) rightRows
        rightOthers)
    (rest : List.Forall₂ (RowAgrees right) unmatched otherUnmatched)
    (positions : List (Option Nat × Option Nat)) :
    List.Forall₂ (RowAgrees (joinedShape merging left right))
      (joinedRows engine kind merging left right leftRows rightRows
        unmatched positions)
      (joinedRows engine kind merging left right leftOthers rightOthers
        otherUnmatched positions) := by
  unfold joinedRows
  induction positions with
  | nil =>
      exact .nil
  | cons position positions inductionHypothesis =>
      refine .cons ?_ inductionHypothesis
      refine joinedRow_agrees engine kind silent
        (rowOrNull_agrees engine lefts position.1)
        (rowOrNull_agrees engine ?_ position.2)
      cases position.1 with
      | none =>
          exact rest
      | some index =>
          have found := getElem?_of_forall₂ rights index
          dsimp only
          generalize rightRows[index]? = rows at found ⊢
          generalize rightOthers[index]? = others at found ⊢
          cases found with
          | none =>
              exact .nil
          | some both =>
              exact both

/-- The rows of a subquery are rows of a FROM list that agree. -/
theorem derivedRows_agree
    (query : Query)
    (aliasName : Option Identifier)
    (columns : List Identifier)
    (rows : Rows Value) :
    List.Forall₂ (RowAgrees [query.binding aliasName columns])
      (rows.map fun row =>
        [tupleOf engine (query.outputs.map (Field.mk · false)) row])
      (rows.map fun row =>
        [tupleOf engine (query.outputs.map (Field.mk · false)) row]) := by
  refine List.forall₂_same.mpr fun tuple member => ?_
  obtain ⟨row, -, rfl⟩ := List.mem_map.mp member
  refine ⟨TupleAgrees.renamed (.refl ?_) columns, trivial⟩
  simp [tupleOf]

/-- Rows of a table that agree are rows of a FROM list that agree. -/
theorem tableRow_agrees
    {schema : Schema}
    {reference : TableReference}
    {columns : List String}
    {row other : String → Value}
    (found : schema.columns reference.name.key = some columns)
    (same :
      ∀ column ∈ columns,
        schema.hidden reference.name.key column = false →
        row column = other column) :
    RowAgrees [reference.binding schema] [columns.map row]
      [columns.map other] := by
  refine ⟨TupleAgrees.renamed ?_ reference.columns, trivial⟩
  simp only [TableReference.fields, found, Option.getD_some]
  clear found
  induction columns with
  | nil =>
      trivial
  | cons column columns inductionHypothesis =>
      exact
        ⟨same column List.mem_cons_self,
          inductionHypothesis fun other member =>
            same other (List.mem_cons_of_mem _ member)⟩

end

/-- Two lists that are zipped with two others. -/
theorem zip_of_forall₂
    {Left Right First Second : Type}
    {related : Left → Right → Prop}
    {alsoRelated : First → Second → Prop}
    {lefts : List Left}
    {rights : List Right}
    {firsts : List First}
    {seconds : List Second}
    (all : List.Forall₂ related lefts rights)
    (more : List.Forall₂ alsoRelated firsts seconds) :
    List.Forall₂
      (fun left right =>
        related left.1 right.1 ∧ alsoRelated left.2 right.2)
      (lefts.zip firsts) (rights.zip seconds) := by
  induction all generalizing firsts seconds with
  | nil =>
      exact .nil
  | cons first _ inductionHypothesis =>
      cases more with
      | nil =>
          exact .nil
      | cons second rest =>
          exact .cons ⟨first, second⟩ (inductionHypothesis rest)

section

variable (engine : Engine Value Error) (schema : Schema)
variable (database otherDatabase : Database Value)

/-- Where a query discloses nothing, it returns the same. -/
def Query.Confidential (query : Query) : Prop :=
  ∀ levels others : List (Level Value),
    LevelsAgree levels others →
    query.disclosures schema (levels.map Level.shape) = [] →
    query.evaluate engine schema database levels =
      query.evaluate engine schema otherDatabase others

/-- Where an expression discloses nothing, it has the same value. -/
def Expr.Confidential (expr : Expr) : Prop :=
  ∀ levels others : List (Level Value),
    LevelsAgree levels others →
    expr.disclosures schema (levels.map Level.shape) = [] →
    expr.evaluate engine schema database levels =
      expr.evaluate engine schema otherDatabase others

/-- Where expressions disclose nothing, they have the same values. -/
def Exprs.Confidential (exprs : Exprs) : Prop :=
  ∀ levels others : List (Level Value),
    LevelsAgree levels others →
    exprs.disclosures schema (levels.map Level.shape) = [] →
    exprs.evaluate engine schema database levels =
      exprs.evaluate engine schema otherDatabase others

/-- Where a FROM list discloses nothing, its rows agree. -/
def From.Confidential (source : From) : Prop :=
  ∀ levels others : List (Level Value),
    LevelsAgree levels others →
    source.disclosures schema (levels.map Level.shape) = [] →
    SourceAgrees (source.shape schema)
      (source.evaluate engine schema database levels)
      (source.evaluate engine schema otherDatabase others)

end

section

variable {engine : Engine Value Error} {schema : Schema}
variable {database otherDatabase : Database Value}

/-- Expressions in the scope of a query and one of its rows or groups. -/
theorem Exprs.Confidential.inner
    {exprs : Exprs}
    {levels others : List (Level Value)}
    {shape : Shape}
    {level other : Level Value}
    (exprsConfidential :
      exprs.Confidential engine schema database otherDatabase)
    (scopes : LevelsAgree levels others)
    (silent :
      exprs.disclosures schema (shape :: levels.map Level.shape) = [])
    (offers : level.shape = shape)
    (both : LevelAgrees level other) :
    exprs.evaluate engine schema database (level :: levels) =
      exprs.evaluate engine schema otherDatabase (other :: others) :=
  exprsConfidential _ _ (.cons both scopes)
    (by rw [List.map_cons, offers]; exact silent)

/-- Expressions in the scope of a query and one of its rows. -/
theorem Exprs.Confidential.single
    {exprs : Exprs}
    {levels others : List (Level Value)}
    {shape : Shape}
    {row other : Row Value}
    (exprsConfidential :
      exprs.Confidential engine schema database otherDatabase)
    (scopes : LevelsAgree levels others)
    (silent :
      exprs.disclosures schema (shape :: levels.map Level.shape) = [])
    (rows : RowAgrees shape row other) :
    exprs.evaluate engine schema database
        (.single shape row :: levels) =
      exprs.evaluate engine schema otherDatabase
        (.single shape other :: others) :=
  exprsConfidential.inner scopes silent rfl
    ⟨rfl, rfl, .cons rows .nil, .cons (.cons rows .nil) .nil⟩

/-- The groups that positions stand for. -/
theorem groups_agree
    {shape : Shape}
    {rows otherRows : List (Row Value)}
    (agree : List.Forall₂ (RowAgrees shape) rows otherRows)
    (groups : List (List Nat)) :
    List.Forall₂ (List.Forall₂ (RowAgrees shape))
      (groups.map fun positions => pick positions rows)
      (groups.map fun positions => pick positions otherRows) := by
  induction groups with
  | nil =>
      exact .nil
  | cons positions groups inductionHypothesis =>
      exact .cons (pick_of_forall₂ agree positions) inductionHypothesis

/-- A select returns the same when its parts are confidential. -/
theorem Query.Confidential.select
    (clauses : Clauses)
    {projections : Exprs}
    {source : From}
    {condition groupBy having orderBy bounds : Exprs}
    (projected :
      projections.Confidential engine schema database otherDatabase)
    (sourced : source.Confidential engine schema database otherDatabase)
    (filtered :
      condition.Confidential engine schema database otherDatabase)
    (grouped : groupBy.Confidential engine schema database otherDatabase)
    (kept : having.Confidential engine schema database otherDatabase)
    (ordered : orderBy.Confidential engine schema database otherDatabase)
    (bounded : bounds.Confidential engine schema database otherDatabase) :
    (Query.select clauses projections source condition groupBy having
      orderBy bounds).Confidential engine schema database
        otherDatabase := by
  intro levels others scopes silent
  simp only [Query.disclosures, List.append_eq_nil_iff, and_assoc]
    at silent
  obtain ⟨sourceSilent, projectionsSilent, conditionSilent,
    groupBySilent, havingSilent, orderBySilent, boundsSilent⟩ := silent
  simp only [Query.evaluate]
  rw [bounded _ _ scopes boundsSilent]
  refine (sourced _ _ scopes sourceSilent).bind_eq ?_
  intro rows otherRows agree
  have conditions :
      (rows.map fun row =>
          condition.evaluate engine schema database
            (.single (source.shape schema) row :: levels)) =
        otherRows.map fun row =>
          condition.evaluate engine schema otherDatabase
            (.single (source.shape schema) row :: others) :=
    map_eq_of_forall₂ agree fun _ _ both =>
      filtered.single scopes conditionSilent both
  rw [conditions]
  refine bind_congr fun positions => ?_
  have picked := pick_of_forall₂ agree positions
  have keys :
      ((pick positions rows).map fun row =>
          (groupBy.evaluate engine schema database
              (.single (source.shape schema) row :: levels),
            projections.evaluate engine schema database
              (.single (source.shape schema) row :: levels))) =
        (pick positions otherRows).map fun row =>
          (groupBy.evaluate engine schema otherDatabase
              (.single (source.shape schema) row :: others),
            projections.evaluate engine schema otherDatabase
              (.single (source.shape schema) row :: others)) :=
    map_eq_of_forall₂ picked fun _ _ both => by
      rw [grouped.single scopes groupBySilent both,
        projected.single scopes projectionsSilent both]
  rw [keys]
  refine bind_congr fun groups => ?_
  have formed := groups_agree picked groups
  have remain :
      ((groupLevels (source.shape schema)
            (groups.map fun group => pick group (pick positions rows))).map
          fun level =>
            having.evaluate engine schema database (level :: levels)) =
        (groupLevels (source.shape schema)
            (groups.map fun group =>
              pick group (pick positions otherRows))).map
          fun level =>
            having.evaluate engine schema otherDatabase
              (level :: others) :=
    map_eq_of_forall₂ (groupLevels_agree formed) fun _ _ both =>
      kept.inner scopes havingSilent both.1 both.2
  rw [remain]
  refine bind_congr fun remaining => ?_
  have left := pick_of_forall₂ formed remaining
  congr 1
  exact
    map_eq_of_forall₂ (groupLevels_agree left) fun _ _ both => by
      rw [projected.inner scopes projectionsSilent both.1 both.2,
        ordered.inner scopes orderBySilent both.1 both.2]

/-- The rows of an operand, in the scope of the ORDER BY of a query. -/
theorem Exprs.Confidential.outputs
    {orderBy : Exprs}
    {query : Query}
    {levels others : List (Level Value)}
    (ordered : orderBy.Confidential engine schema database otherDatabase)
    (scopes : LevelsAgree levels others)
    (silent :
      orderBy.disclosures schema
        (query.outputShape :: levels.map Level.shape) = [])
    (rows : Rows Value) :
    (rows.map fun row =>
        (row,
          orderBy.evaluate engine schema database
            (.single query.outputShape
                [tupleOf engine (query.outputs.map (Field.mk · false))
                  row] ::
              levels))) =
      rows.map fun row =>
        (row,
          orderBy.evaluate engine schema otherDatabase
            (.single query.outputShape
                [tupleOf engine (query.outputs.map (Field.mk · false))
                  row] ::
              others)) := by
  refine List.map_congr_left fun row _ => ?_
  have agrees :
      RowAgrees query.outputShape
        [tupleOf engine (query.outputs.map (Field.mk · false)) row]
        [tupleOf engine (query.outputs.map (Field.mk · false)) row] :=
    ⟨TupleAgrees.renamed (.refl (by simp [tupleOf])) [], trivial⟩
  rw [ordered.single scopes silent agrees]

/-- So does a set operation. -/
theorem Query.Confidential.setOperation
    (clauses : Clauses)
    (kind : String)
    {left right : Query}
    {orderBy bounds : Exprs}
    (leftQuery : left.Confidential engine schema database otherDatabase)
    (rightQuery :
      right.Confidential engine schema database otherDatabase)
    (ordered : orderBy.Confidential engine schema database otherDatabase)
    (bounded : bounds.Confidential engine schema database otherDatabase) :
    (Query.setOperation clauses kind left right orderBy
      bounds).Confidential engine schema database otherDatabase := by
  intro levels others scopes silent
  simp only [Query.disclosures, List.append_eq_nil_iff, and_assoc]
    at silent
  obtain ⟨leftSilent, rightSilent, orderBySilent, boundsSilent⟩ := silent
  simp only [Query.evaluate]
  rw [leftQuery _ _ scopes leftSilent, rightQuery _ _ scopes rightSilent,
    bounded _ _ scopes boundsSilent]
  simp only [bind, Except.bind]
  split
  · rfl
  · rw [ordered.outputs scopes orderBySilent]

/-- So does a query in parentheses. -/
theorem Query.Confidential.nested
    (clauses : Clauses)
    {query : Query}
    {orderBy bounds : Exprs}
    (inner : query.Confidential engine schema database otherDatabase)
    (ordered : orderBy.Confidential engine schema database otherDatabase)
    (bounded : bounds.Confidential engine schema database otherDatabase) :
    (Query.nested clauses query orderBy bounds).Confidential engine
      schema database otherDatabase := by
  intro levels others scopes silent
  simp only [Query.disclosures, List.append_eq_nil_iff, and_assoc]
    at silent
  obtain ⟨querySilent, orderBySilent, boundsSilent⟩ := silent
  simp only [Query.evaluate]
  rw [inner _ _ scopes querySilent, bounded _ _ scopes boundsSilent]
  simp only [bind, Except.bind]
  split
  · rfl
  · rw [ordered.outputs scopes orderBySilent]

/-- A column reference is confidential. -/
theorem Expr.Confidential.column
    (table : Option Identifier)
    (name : Identifier) :
    (Expr.column table name).Confidential engine schema database
      otherDatabase := by
  intro levels others scopes silent
  simp only [Expr.disclosures, columnDisclosures] at silent
  simp only [Expr.evaluate]
  refine valueOf_agrees engine scopes ?_
  split at silent
  · split at silent <;> cases silent
  · rename_i visible
    exact Bool.not_eq_true _ ▸ visible

/-- The number of rows is no secret. -/
theorem Expr.Confidential.countAll :
    Expr.countAll.Confidential engine schema database
      otherDatabase := by
  intro levels others scopes silent
  have counts (level : Nat) :
      (groupAt levels level).map (fun _ => ([] : List Value)) =
        (groupAt others level).map fun _ => [] :=
    map_eq_of_forall₂ (scopes.groupAt level) fun _ _ _ => rfl
  simp only [Expr.evaluate, counts, scopes.length]

/-- A collective operator is confidential when its arguments are. -/
theorem Expr.Confidential.collective
    (operator : Operator)
    {args : Exprs}
    (given : args.Confidential engine schema database otherDatabase) :
    (Expr.collective operator args).Confidential engine schema database
      otherDatabase := by
  intro levels others scopes silent
  simp only [Expr.disclosures] at silent
  have byRow (level : Nat) :
      (groupAt levels level).map
          (fun row =>
            args.evaluate engine schema database
              (focus levels level row)) =
        (groupAt others level).map fun row =>
          args.evaluate engine schema otherDatabase
            (focus others level row) :=
    map_eq_of_forall₂ (scopes.groupAt level) fun row _ both =>
      given _ _ (scopes.focus level both)
        (by rw [focus_shapes]; exact silent)
  simp only [Expr.evaluate, byRow, given _ _ scopes silent,
    scopes.length]
  cases scopes with
  | nil =>
      rfl
  | @cons level other outer otherOuter both rest =>
      have byGroup :
          ((groupLevels level.shape level.groups).map fun group =>
              args.evaluate engine schema database (group :: outer)) =
            (groupLevels other.shape other.groups).map fun group =>
              args.evaluate engine schema otherDatabase
                (group :: otherOuter) := by
        rw [← both.shape]
        exact
          map_eq_of_forall₂ (groupLevels_agree both.groups)
            fun _ _ groups =>
              given.inner rest silent groups.1 groups.2
      simp only [byGroup, List.head?_cons, Option.map_some,
        both.position]

/-- A table of the FROM list is confidential. -/
theorem From.Confidential.table
    (agree : DatabaseAgrees schema database otherDatabase)
    (reference : TableReference) :
    (From.table reference).Confidential engine schema database
      otherDatabase := by
  intro levels others _ _
  simp only [From.evaluate]
  cases found : schema.columns reference.name.key with
  | none =>
      rfl
  | some columns =>
      have rows := agree _ _ found
      refine List.forall₂_map_left_iff.mpr
        (List.forall₂_map_right_iff.mpr (rows.imp ?_))
      intro row other same
      exact tableRow_agrees found same

/-- A subquery of the FROM list is confidential when its query is. -/
theorem From.Confidential.derived
    {query : Query}
    (inner : query.Confidential engine schema database otherDatabase)
    (aliasName : Option Identifier)
    (columns : List Identifier) :
    (From.derived query aliasName columns).Confidential engine schema
      database otherDatabase := by
  intro levels others scopes silent
  simp only [From.evaluate]
  rw [inner _ _ scopes silent]
  cases query.evaluate engine schema otherDatabase others with
  | error error =>
      rfl
  | ok rows =>
      exact derivedRows_agree engine query aliasName columns rows

/-- A join is confidential when its parts are. -/
theorem From.Confidential.join
    (kind : String)
    {left right : From}
    (merging : Merging)
    {condition : Exprs}
    (leftSource :
      left.Confidential engine schema database otherDatabase)
    (rightSource :
      right.Confidential engine schema database otherDatabase)
    (conditioned :
      condition.Confidential engine schema database otherDatabase) :
    (From.join kind left right merging condition).Confidential engine
      schema database otherDatabase := by
  intro levels others scopes silent
  simp only [From.disclosures, List.append_eq_nil_iff, and_assoc]
    at silent
  obtain ⟨leftSilent, rightSilent, mergeSilent, conditionSilent⟩ := silent
  simp only [From.evaluate]
  refine (leftSource _ _ scopes leftSilent).bind ?_
  intro leftRows leftOthers lefts
  refine (rightSource _ _ scopes rightSilent).bind ?_
  intro rightRows rightOthers rights
  have pairings :
      (leftRows.map fun leftRow =>
          rightRows.map fun rightRow =>
            (⟨mergedPairs engine merging (left.shape schema)
                  (right.shape schema) leftRow rightRow,
                condition.evaluate engine schema database
                  (.single
                      (joinedShape merging (left.shape schema)
                        (right.shape schema))
                      (joinedRow engine kind merging (left.shape schema)
                        (right.shape schema) leftRow rightRow) ::
                    levels)⟩ : Pairing Value)) =
        leftOthers.map fun leftRow =>
          rightOthers.map fun rightRow =>
            ⟨mergedPairs engine merging (left.shape schema)
                (right.shape schema) leftRow rightRow,
              condition.evaluate engine schema otherDatabase
                (.single
                    (joinedShape merging (left.shape schema)
                      (right.shape schema))
                    (joinedRow engine kind merging (left.shape schema)
                      (right.shape schema) leftRow rightRow) ::
                  others)⟩ :=
    map_eq_of_forall₂ lefts fun _ _ leftBoth =>
      map_eq_of_forall₂ rights fun _ _ rightBoth => by
        rw [mergedPairs_agrees engine mergeSilent leftBoth rightBoth,
          conditioned.single scopes conditionSilent
            (joinedRow_agrees engine kind mergeSilent leftBoth
              rightBoth)]
  rw [pairings]
  refine .bind_self _ fun positions => ?_
  have rightsEach :
      List.Forall₂
        (List.Forall₂ (RowAgrees (right.shape schema)))
        (leftRows.map fun _ => rightRows)
        (leftOthers.map fun _ => rightOthers) :=
    List.forall₂_map_left_iff.mpr
      (List.forall₂_map_right_iff.mpr (lefts.imp fun _ _ _ => rights))
  exact
    joinedRows_agrees engine kind mergeSilent lefts rightsEach rights
      positions

/-- A join with a LATERAL subquery is confidential when its parts are. -/
theorem From.Confidential.lateral
    (kind : String)
    {left : From}
    {query : Query}
    {condition : Exprs}
    (leftSource :
      left.Confidential engine schema database otherDatabase)
    (inner : query.Confidential engine schema database otherDatabase)
    (aliasName : Option Identifier)
    (columns : List Identifier)
    (conditioned :
      condition.Confidential engine schema database otherDatabase) :
    (From.lateral kind left query aliasName columns
      condition).Confidential engine schema database
        otherDatabase := by
  intro levels others scopes silent
  simp only [From.disclosures, List.append_eq_nil_iff, and_assoc]
    at silent
  obtain ⟨leftSilent, querySilent, conditionSilent⟩ := silent
  have mergeSilent :
      joinDisclosures .none (left.shape schema)
        [query.binding aliasName columns] = [] :=
    rfl
  simp only [From.evaluate]
  refine (leftSource _ _ scopes leftSilent).bind ?_
  intro leftRows leftOthers lefts
  have answers :
      (leftRows.map fun leftRow =>
          query.evaluate engine schema database
            (.single (left.shape schema) leftRow :: levels)) =
        leftOthers.map fun leftRow =>
          query.evaluate engine schema otherDatabase
            (.single (left.shape schema) leftRow :: others) :=
    map_eq_of_forall₂ lefts fun _ _ both =>
      inner _ _ (scopes.single both) querySilent
  rw [answers]
  refine .bind_self _ fun found => ?_
  have rights :
      List.Forall₂
        (List.Forall₂ (RowAgrees [query.binding aliasName columns]))
        (found.map fun rows =>
          rows.map fun row =>
            [tupleOf engine (query.outputs.map (Field.mk · false)) row])
        (found.map fun rows =>
          rows.map fun row =>
            [tupleOf engine (query.outputs.map (Field.mk · false))
              row]) :=
    List.forall₂_map_left_iff.mpr
      (List.forall₂_map_right_iff.mpr
        (List.forall₂_same.mpr fun rows _ =>
          derivedRows_agree engine query aliasName columns rows))
  have pairings :=
    map_eq_of_forall₂ (zip_of_forall₂ lefts rights)
      fun part otherPart both =>
        map_eq_of_forall₂ both.2 fun rightRow otherRow rightBoth =>
          congrArg (Pairing.mk ([] : List (Value × Value)))
            (conditioned.single scopes conditionSilent
              (joinedRow_agrees engine kind mergeSilent both.1
                rightBoth))
  rw [pairings]
  refine .bind_self _ fun positions => ?_
  exact
    joinedRows_agrees engine kind mergeSilent lefts rights .nil positions

mutual

/-- Every query is confidential. -/
theorem Query.confidential
    (agree : DatabaseAgrees schema database otherDatabase) :
    (query : Query) →
      query.Confidential engine schema database otherDatabase
  | .select clauses projections source condition groupBy having orderBy
      bounds =>
      .select clauses (projections.confidential agree)
        (source.confidential agree) (condition.confidential agree)
        (groupBy.confidential agree) (having.confidential agree)
        (orderBy.confidential agree) (bounds.confidential agree)
  | .setOperation clauses kind left right orderBy bounds =>
      .setOperation clauses kind (left.confidential agree)
        (right.confidential agree) (orderBy.confidential agree)
        (bounds.confidential agree)
  | .nested clauses query orderBy bounds =>
      .nested clauses (query.confidential agree)
        (orderBy.confidential agree) (bounds.confidential agree)

/-- Every expression is confidential. -/
theorem Expr.confidential
    (agree : DatabaseAgrees schema database otherDatabase) :
    (expr : Expr) →
      expr.Confidential engine schema database otherDatabase
  | .column table name => .column table name
  | .star => fun _ _ scopes silent =>
      starValue_agrees engine scopes silent
  | .countAll => .countAll
  | .aliased expr _ => fun levels others scopes silent =>
      expr.confidential agree levels others scopes silent
  | .apply operator args => fun levels others scopes silent =>
      congrArg (engine.apply operator)
        (args.confidential agree levels others scopes silent)
  | .collective operator args =>
      .collective operator (args.confidential agree)
  | .subquery operator args query => fun levels others scopes silent =>
      have apart := List.append_eq_nil_iff.mp silent
      congrArg₂ (engine.subquery operator)
        (args.confidential agree levels others scopes apart.1)
        (query.confidential agree levels others scopes apart.2)

/-- Every list of expressions is confidential. -/
theorem Exprs.confidential
    (agree : DatabaseAgrees schema database otherDatabase) :
    (exprs : Exprs) →
      exprs.Confidential engine schema database otherDatabase
  | .nil => fun _ _ _ _ => rfl
  | .cons head tail => fun levels others scopes silent =>
      have apart := List.append_eq_nil_iff.mp silent
      congrArg₂ List.cons
        (head.confidential agree levels others scopes apart.1)
        (tail.confidential agree levels others scopes apart.2)

/-- Every FROM list is confidential. -/
theorem From.confidential
    (agree : DatabaseAgrees schema database otherDatabase) :
    (source : From) →
      source.Confidential engine schema database otherDatabase
  | .nothing => fun _ _ _ _ => .cons trivial .nil
  | .table reference => .table agree reference
  | .derived query aliasName columns =>
      .derived (query.confidential agree) aliasName columns
  | .join kind left right merging condition =>
      .join kind merging (left.confidential agree)
        (right.confidential agree) (condition.confidential agree)
  | .lateral kind left query aliasName columns condition =>
      .lateral kind (left.confidential agree) (query.confidential agree)
        aliasName columns (condition.confidential agree)

end

/-- A query without disclosures returns the same from databases that agree. -/
theorem Query.run_agrees
    (agree : DatabaseAgrees schema database otherDatabase)
    {query : Query}
    (silent : query.disclosures schema [] = []) :
    query.run engine schema database =
      query.run engine schema otherDatabase :=
  query.confidential agree [] [] .nil silent

end

end Sql
