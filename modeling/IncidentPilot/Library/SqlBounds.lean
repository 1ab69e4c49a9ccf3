import IncidentPilot.Library.SqlExecution

/-!
# How queries bound their rows

A query gathers rows, and its output stage sorts, skips and cuts them.  LIMIT
and FETCH FIRST cut what the query would return without them; for FETCH FIRST
the engine says how many rows that are, since its count is an expression and
WITH TIES adds the rows that tie with the last one.
-/

namespace Sql

/-- How a query bounds its rows. -/
def Query.bound : Query → Bound
  | .select clauses _ _ _ _ _ _ _ => clauses.limit
  | .setOperation clauses _ _ _ _ _ => clauses.limit
  | .nested clauses _ _ _ => clauses.limit

/-- Clauses with another bound. -/
def Clauses.bounded (bound : Bound) (clauses : Clauses) : Clauses :=
  { clauses with limit := bound }

/-- A query with another bound. -/
def Query.bounded (bound : Bound) : Query → Query
  | .select clauses projections source condition groupBy having orderBy
      bounds =>
      .select (clauses.bounded bound) projections source condition groupBy
        having orderBy bounds
  | .setOperation clauses kind left right orderBy bounds =>
      .setOperation (clauses.bounded bound) kind left right orderBy bounds
  | .nested clauses query orderBy bounds =>
      .nested (clauses.bounded bound) query orderBy bounds

/-- The clauses of a query, with another bound. -/
def Query.clausesWith (bound : Bound) : Query → Clauses
  | .select clauses _ _ _ _ _ _ _ => clauses.bounded bound
  | .setOperation clauses _ _ _ _ _ => clauses.bounded bound
  | .nested clauses _ _ _ => clauses.bounded bound

/-- The expressions of LIMIT, FETCH FIRST and OFFSET. -/
def Query.boundExprs : Query → Exprs
  | .select _ _ _ _ _ _ _ bounds => bounds
  | .setOperation _ _ _ _ _ bounds => bounds
  | .nested _ _ _ bounds => bounds

/-- A query has its own bound. -/
theorem Query.bounded_bound (query : Query) :
    query.bounded query.bound = query := by
  cases query <;> rfl

section

variable {Value Error : Type}

/--
What an engine does with bounds: they do not matter to the groups, a LIMIT with
an integer cuts the output after as many rows, and FETCH FIRST cuts it after
`fetched` rows.
-/
structure Engine.Bounds
    (engine : Engine Value Error)
    (fetched :
      Clauses → List (List Value × List Value) → List Value → Nat) :
    Prop where
  group :
    ∀ (clauses : Clauses) (bound : Bound)
      (rows : List (List Value × List Value)),
      engine.group (clauses.bounded bound) rows = engine.group clauses rows
  literal :
    ∀ (clauses : Clauses) (count : Int)
      (rows : List (List Value × List Value)) (bounds : List Value),
      engine.output (clauses.bounded (.literal count)) rows bounds =
        (engine.output (clauses.bounded .none) rows bounds).map
          (List.take count.toNat)
  fetch :
    ∀ (clauses : Clauses) (rows : List (List Value × List Value))
      (bounds : List Value),
      engine.output (clauses.bounded .fetch) rows bounds =
        (engine.output (clauses.bounded .none) rows bounds).map
          (List.take (fetched (clauses.bounded .fetch) rows bounds))

variable (engine : Engine Value Error)
variable (schema : Schema) (database : Database Value)

/-- The rows that a query gathers for its output, with what sorts them. -/
def Query.gather (levels : List (Level Value)) :
    Query → Except Error (List (List Value × List Value))
  | .select clauses projections source condition groupBy having orderBy
      _ => do
      let shape := source.shape schema
      let rows ← source.evaluate engine schema database levels
      let kept ←
        engine.filter
          (rows.map fun row =>
            condition.evaluate engine schema database
              (.single shape row :: levels))
      let rows := pick kept rows
      let groups ←
        engine.group clauses
          (rows.map fun row =>
            (groupBy.evaluate engine schema database
                (.single shape row :: levels),
              projections.evaluate engine schema database
                (.single shape row :: levels)))
      let groups := groups.map fun positions => pick positions rows
      let kept ←
        engine.filter
          ((groupLevels shape groups).map fun level =>
            having.evaluate engine schema database (level :: levels))
      pure
        ((groupLevels shape (pick kept groups)).map fun level =>
          (projections.evaluate engine schema database (level :: levels),
            orderBy.evaluate engine schema database (level :: levels)))
  | .setOperation _ kind left right orderBy _ => do
      let rows ←
        engine.setOperation kind
          (left.evaluate engine schema database levels)
          (right.evaluate engine schema database levels)
      let columns := left.outputs.map (Field.mk · false)
      pure
        (rows.map fun row =>
          (row,
            orderBy.evaluate engine schema database
              (.single left.outputShape [tupleOf engine columns row] ::
                levels)))
  | .nested _ query orderBy _ => do
      let rows ← query.evaluate engine schema database levels
      let columns := query.outputs.map (Field.mk · false)
      pure
        (rows.map fun row =>
          (row,
            orderBy.evaluate engine schema database
              (.single query.outputShape [tupleOf engine columns row] ::
                levels)))

/-- A query gathers its rows and then puts them out. -/
theorem Query.evaluate_eq
    (levels : List (Level Value))
    (query : Query) :
    query.evaluate engine schema database levels =
      query.gather engine schema database levels >>= fun rows =>
        engine.output (query.clausesWith query.bound) rows
          (query.boundExprs.evaluate engine schema database levels) := by
  cases query with
  | select clauses projections source condition groupBy having orderBy
      bounds =>
      rw [Query.evaluate, Query.gather]
      simp only [bind_assoc, pure_bind]
      rfl
  | setOperation clauses kind left right orderBy bounds =>
      rw [Query.evaluate, Query.gather]
      simp only [bind_assoc, pure_bind]
      rfl
  | nested clauses query orderBy bounds =>
      rw [Query.evaluate, Query.gather]
      simp only [bind_assoc, pure_bind]
      rfl

/-- How many rows the FETCH FIRST of a query keeps. -/
def Query.fetchCount
    (fetched :
      Clauses → List (List Value × List Value) → List Value → Nat)
    (query : Query) : Nat :=
  match query.gather engine schema database [] with
  | .error _ => 0
  | .ok rows =>
      fetched (query.clausesWith .fetch) rows
        (query.boundExprs.evaluate engine schema database [])

namespace Engine.Bounds

variable {engine}
variable {fetched :
  Clauses → List (List Value × List Value) → List Value → Nat}

/-- The bound does not matter to the rows that a query gathers. -/
theorem gather_bounded
    (bounds : engine.Bounds fetched)
    (levels : List (Level Value))
    (bound : Bound)
    (query : Query) :
    (query.bounded bound).gather engine schema database levels =
      query.gather engine schema database levels := by
  cases query with
  | select clauses projections source condition groupBy having orderBy
      boundExprs =>
      simp only [Query.bounded, Query.gather, bounds.group]
  | setOperation clauses kind left right orderBy boundExprs =>
      rfl
  | nested clauses query orderBy boundExprs =>
      rfl

/-- What a query returns with another bound. -/
theorem run_bounded
    (bounds : engine.Bounds fetched)
    (bound : Bound)
    (query : Query) :
    (query.bounded bound).run engine schema database =
      query.gather engine schema database [] >>= fun rows =>
        engine.output (query.clausesWith bound) rows
          (query.boundExprs.evaluate engine schema database []) := by
  rw [Query.run, Query.evaluate_eq, bounds.gather_bounded]
  cases query <;> rfl

/-- A LIMIT with an integer keeps as many rows. -/
theorem run_literal
    (bounds : engine.Bounds fetched)
    {query : Query}
    {count : Int}
    (isLiteral : query.bound = .literal count) :
    query.run engine schema database =
      ((query.bounded .none).run engine schema database).map
        (List.take count.toNat) := by
  have own := query.bounded_bound
  rw [isLiteral] at own
  have limited :
      ∀ rows values,
        engine.output (query.clausesWith (.literal count)) rows values =
          (engine.output (query.clausesWith .none) rows values).map
            (List.take count.toNat) := by
    intro rows values
    cases query <;> exact bounds.literal _ count rows values
  rw [← own, bounds.run_bounded, own, bounds.run_bounded]
  cases query.gather engine schema database [] with
  | error error =>
      rfl
  | ok rows =>
      exact limited rows _

/-- FETCH FIRST keeps as many rows as it counts. -/
theorem run_fetch
    (bounds : engine.Bounds fetched)
    {query : Query}
    (isFetch : query.bound = .fetch) :
    query.run engine schema database =
      ((query.bounded .none).run engine schema database).map
        (List.take
          (query.fetchCount engine schema database fetched)) := by
  have own := query.bounded_bound
  rw [isFetch] at own
  have cut :
      ∀ rows values,
        engine.output (query.clausesWith .fetch) rows values =
          (engine.output (query.clausesWith .none) rows values).map
            (List.take
              (fetched (query.clausesWith .fetch) rows values)) := by
    intro rows values
    cases query <;> exact bounds.fetch _ rows values
  unfold Query.fetchCount
  rw [← own, bounds.run_bounded, own, bounds.run_bounded]
  cases query.gather engine schema database [] with
  | error error =>
      rfl
  | ok rows =>
      exact cut rows _

end Engine.Bounds

end

end Sql
