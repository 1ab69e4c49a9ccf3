import IncidentPilot.Library.SqlBounds
import IncidentPilot.SqlConfidentiality

/-!
# The row bound of an accepted query

The validator checks the count of every LIMIT, and adds a LIMIT to a statement
that has no row-limiting clause of its own.  `sqlglot` keeps FETCH FIRST where
it keeps LIMIT, so that a statement with one gets no LIMIT; and it is no `Limit`
node, so that nobody checks how many rows it fetches.
-/

namespace IncidentPilot

/-- The bound of a query is the limit among its clauses. -/
theorem queryClauses_limit (query : Sql.Query) :
    (queryClauses query).limit = query.bound := by
  cases query <;> rfl

/-- The clauses of a query are among its nodes. -/
theorem clauseNodes_subset (query : Sql.Query) :
    clauseNodes (queryType query) (queryClauses query) ⊆
      queryNodes query := by
  intro node member
  cases query <;> simp_all [queryNodes, queryClauses, queryType]

/-- An accepted integer limit of a query is between 1 and 100. -/
theorem acceptedLimit_literal
    {query : Sql.Query}
    {count : Int}
    (accepted : (queryNodes query).findSome? limitError = none)
    (isLiteral : query.bound = .literal count) :
    1 ≤ count ∧ count ≤ 100 := by
  have isNode : SqlNode.limit (some count) ∈ queryNodes query := by
    refine clauseNodes_subset query ?_
    simp [clauseNodes, queryClauses_limit, isLiteral]
  have allowed := List.findSome?_eq_none_iff.mp accepted _ isNode
  simpa [limitError] using allowed

/-- No other limit of a query is accepted. -/
theorem acceptedLimit_expression
    {query : Sql.Query}
    (accepted : (queryNodes query).findSome? limitError = none) :
    query.bound ≠ .expression := by
  intro isExpression
  have isNode : SqlNode.limit none ∈ queryNodes query := by
    refine clauseNodes_subset query ?_
    simp [clauseNodes, queryClauses_limit, isExpression]
  have allowed := List.findSome?_eq_none_iff.mp accepted _ isNode
  simp [limitError] at allowed

/--
If a query fetches its rows with FETCH FIRST, then in every state it either
counts at most 100 rows or would return no more without it.
-/
def FetchesFew
    {Value Error : Type}
    (engine : Sql.Engine Value Error)
    (fetched :
      Sql.Clauses → List (List Value × List Value) → List Value → Nat)
    (query : Sql.Query) : Prop :=
  (queryClauses query).limit = .fetch →
    ∀ database rows,
      (query.bounded .none).run engine referenceSchema database =
        .ok rows →
      query.fetchCount engine referenceSchema database fetched ≤ 100 ∨
        rows.length ≤ 100

/-- What remains of a successful result that was cut. -/
theorem map_take_ok
    {Error Item : Type}
    {count : Nat}
    {result : Except Error (List Item)}
    {rows : List Item}
    (cut : result.map (List.take count) = .ok rows) :
    ∃ whole, result = .ok whole ∧ rows = whole.take count := by
  cases result with
  | error error =>
      cases cut
  | ok whole =>
      cases cut
      exact ⟨whole, rfl, rfl⟩

/--
An accepted query returns at most 100 rows in every state of the database, if
and only if it has no FETCH FIRST that fetches more.
-/
theorem accepted_rows_bounded_iff
    {Value Error : Type}
    {engine : Sql.Engine Value Error}
    {fetched :
      Sql.Clauses → List (List Value × List Value) → List Value → Nat}
    {glot : Sqlglot}
    {execute :
      String → Sql.Database Value → Except Error (Sql.Rows Value)}
    {text : String}
    {safe : SafeQuery}
    {query : Sql.Query}
    (bounds : engine.Bounds fetched)
    (mirrors : Mirrors engine glot execute query)
    (accepted : validateReadonlySql glot text = .ok safe)
    (parsed : glot.parse text = .ok [some (.query query)]) :
    (∀ database rows,
        execute safe.query database = .ok rows → rows.length ≤ 100) ↔
      FetchesFew engine fetched query := by
  obtain ⟨found, isFound, -, limits, returned⟩ :=
    validateReadonlySql_ok accepted
  rw [parsed] at isFound
  cases isFound
  rw [returned]
  unfold boundedQuery FetchesFew
  rw [queryClauses_limit]
  cases bound : query.bound with
  | none =>
      refine ⟨fun _ isFetch => (nomatch isFetch), fun _ database rows => ?_⟩
      rw [if_pos rfl, mirrors.limited]
      intro executed
      obtain ⟨whole, -, rfl⟩ := map_take_ok executed
      exact List.length_take_le 100 whole
  | literal count =>
      refine ⟨fun _ isFetch => (nomatch isFetch), fun _ database rows => ?_⟩
      rw [if_neg (by simp), mirrors.generated,
        bounds.run_literal referenceSchema database bound]
      intro executed
      obtain ⟨whole, -, rfl⟩ := map_take_ok executed
      have few := acceptedLimit_literal limits bound
      have short := List.length_take_le count.toNat whole
      omega
  | expression =>
      exact absurd bound (acceptedLimit_expression limits)
  | fetch =>
      rw [if_neg (by simp)]
      constructor
      · intro bounded _ database whole returnsWhole
        have executed :
            execute (glot.sql query) database =
              .ok
                (whole.take
                  (query.fetchCount engine referenceSchema database
                    fetched)) := by
          rw [mirrors.generated,
            bounds.run_fetch referenceSchema database bound, returnsWhole]
          rfl
        have few := bounded database _ executed
        rw [List.length_take] at few
        omega
      · intro few database rows executed
        rw [mirrors.generated,
          bounds.run_fetch referenceSchema database bound] at executed
        obtain ⟨whole, returnsWhole, rfl⟩ := map_take_ok executed
        have either := few rfl database whole returnsWhole
        rw [List.length_take]
        omega

/-- A decimal number. -/
def decimal (text : String) : Nat :=
  text.toList.foldl (fun value digit => 10 * value + (digit.toNat - 48)) 0

/-- The count of a bound; FETCH FIRST without one fetches one row. -/
def countOf (bounds : List String) : Nat :=
  (bounds.head?.map decimal).getD 1

/-- Texts as values, literals for themselves, and bounds that cut the output. -/
def boundingEngine : Sql.Engine String String :=
  { textEngine with
    apply := fun operator args =>
      match operator with
      | .plain text => text
      | _ => ",".intercalate args
    output := fun clauses rows bounds =>
      let rows := rows.map Prod.fst
      match clauses.limit with
      | .none => .ok rows
      | .literal count => .ok (rows.take count.toNat)
      | .expression => .ok (rows.take (countOf bounds))
      | .fetch => .ok (rows.take (countOf bounds)) }

/-- Its FETCH FIRST fetches as many rows as the bound counts. -/
theorem boundingEngine_bounds :
    boundingEngine.Bounds fun _ _ bounds => countOf bounds where
  group _ _ _ := rfl
  literal _ _ _ _ := rfl
  fetch _ _ _ := rfl

/-- A `sqlglot` that knows one text, which holds its own row-limiting clause. -/
def sqlglotKeeping (text : String) (query : Sql.Query) : Sqlglot :=
  { sqlglotFor text query with
    sql := fun tree =>
      if (queryClauses tree).limit = .literal 100 then
        text ++ " LIMIT 100"
      else
        text }

/-- An execution of one text by an engine, with or without an added limit. -/
def executeBy
    (engine : Sql.Engine String String)
    (text : String)
    (query : Sql.Query)
    (given : String)
    (database : Sql.Database String) :
    Except String (Sql.Rows String) :=
  if given = text then
    query.run engine referenceSchema database
  else
    (query.run engine referenceSchema database).map (List.take 100)

/-- The text is executed as its query. -/
theorem executeBy_mirrors
    {engine : Sql.Engine String String}
    {text : String}
    {query : Sql.Query}
    (keeps : (queryClauses query).limit ≠ .literal 100) :
    Mirrors engine (sqlglotKeeping text query)
      (executeBy engine text query) query where
  generated database := by
    simp [sqlglotKeeping, executeBy, keeps]
  limited database := by
    have isLimited :
        (queryClauses (limitedQuery query)).limit = .literal 100 := by
      cases query <;> rfl
    have other : text ++ " LIMIT 100" ≠ text := by
      intro same
      have lengths := congrArg String.length same
      rw [String.length_append] at lengths
      have positive : " LIMIT 100".length = 10 := by decide
      omega
    simp [sqlglotKeeping, sqlglotFor, executeBy, isLimited, other]

/-- A query that fetches the identifiers of the first customers. -/
def fetchText (count : String) : String :=
  "SELECT id FROM customers FETCH FIRST " ++ count ++ " ROWS ONLY"

/-- What it is parsed to. -/
def fetchQuery (count : String) : Sql.Query :=
  .select { limit := .fetch }
    (.cons (.column none (unquoted "id")) .nil)
    (.table { name := unquoted "customers" })
    .nil .nil .nil .nil
    (.cons (.apply (.plain count) .nil) .nil)

/-- The first five customers are accepted, and are few. -/
theorem accepted_rows_bounded_iff_five :
    (∀ database rows,
        executeBy boundingEngine (fetchText "5") (fetchQuery "5")
            (fetchText "5") database =
          .ok rows →
        rows.length ≤ 100) ↔
      FetchesFew boundingEngine (fun _ _ bounds => countOf bounds)
        (fetchQuery "5") := by
  have accepted :
      validateReadonlySql (sqlglotKeeping (fetchText "5") (fetchQuery "5"))
          (fetchText "5") =
        .ok ⟨"Select", fetchText "5"⟩ := by
    decide +kernel
  have parsed :
      (sqlglotKeeping (fetchText "5") (fetchQuery "5")).parse
          (fetchText "5") =
        .ok [some (.query (fetchQuery "5"))] := by
    simp [sqlglotKeeping, sqlglotFor]
  exact
    accepted_rows_bounded_iff boundingEngine_bounds
      (executeBy_mirrors (by decide)) accepted parsed

/-- The first thousand customers are accepted as well, and all are returned. -/
theorem accepted_rows_unbounded :
    validateReadonlySql
          (sqlglotKeeping (fetchText "1000") (fetchQuery "1000"))
          (fetchText "1000") =
        .ok ⟨"Select", fetchText "1000"⟩ ∧
      boundingEngine.Bounds (fun _ _ bounds => countOf bounds) ∧
      Mirrors boundingEngine
        (sqlglotKeeping (fetchText "1000") (fetchQuery "1000"))
        (executeBy boundingEngine (fetchText "1000") (fetchQuery "1000"))
        (fetchQuery "1000") ∧
      (executeBy boundingEngine (fetchText "1000") (fetchQuery "1000")
            (fetchText "1000")
            (customersNamed (List.replicate 101 "Ann"))).map
          List.length =
        .ok 101 :=
  ⟨by decide +kernel, boundingEngine_bounds,
    executeBy_mirrors (by decide), by decide +kernel⟩

end IncidentPilot
