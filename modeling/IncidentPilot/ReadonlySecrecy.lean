import IncidentPilot.ReadonlyQueryGuard

/-!
# What the readonly database tool gives away

The tool asks PostgreSQL for the validated query and for nothing else that
depends on the data, so that its reply tells no more than the query does.
-/

namespace IncidentPilot

variable {Cell : Type}
variable {tools : CellTools Cell}
variable {server : ReferenceServer Cell}

/-- The tool asks for its own statements, and for one other. -/
def AsksOnly (text : String) : PgRequest → Prop
  | .execute statement => statement ∈ ownStatements ∨ statement = text
  | _ => True

/-- What was heard is not asked for. -/
theorem asks_pgHeard
    {Value : Type}
    {text : String}
    (answer : Except String Value) :
    (pgHeard answer : PgProgram Cell Value).Asks (AsksOnly text) := by
  cases answer with
  | error message =>
      trivial
  | ok value =>
      trivial

/-- A statement of the tool, or the one other. -/
theorem asks_executed
    {statement text : String}
    (isOne : statement ∈ ownStatements ∨ statement = text) :
    (executed statement : PgProgram Cell (CursorResult Cell)).Asks
      (AsksOnly text) :=
  ⟨isOne, fun answer => asks_pgHeard answer⟩

/-- A question about the role. -/
theorem asks_inspection
    {statement text : String}
    (inspects : statement ∈ inspectionStatements) :
    (executed statement : PgProgram Cell (CursorResult Cell)).Asks
      (AsksOnly text) :=
  asks_executed (.inl (List.mem_append_left _ inspects))

/-- Looking at the first cell asks for nothing. -/
theorem asks_firstCell
    {text : String}
    (row : Option (List Cell)) :
    (firstCell row).Asks (AsksOnly text) := by
  cases row with
  | none =>
      trivial
  | some cells =>
      cases cells with
      | nil =>
          trivial
      | cons cell rest =>
          trivial

/-- Fetching one row asks for nothing. -/
theorem asks_fetchOne
    {text : String}
    (result : CursorResult Cell) :
    (fetchOne result).Asks (AsksOnly text) :=
  (asks_pgHeard result.rows).bind fun _ => trivial

/-- The check of the role asks for statements of the tool. -/
theorem asks_checkRole (tools : CellTools Cell) (text : String) :
    (checkRole tools).Asks (AsksOnly text) := by
  refine (asks_inspection (by simp [inspectionStatements])).bind ?_
  intro attributes
  refine (asks_fetchOne attributes).bind ?_
  intro role
  refine (asks_inspection (by simp [inspectionStatements])).bind ?_
  intro shown
  cases role with
  | none =>
      trivial
  | some flags =>
      by_cases any : flags.any tools.truthy = true
      · simp only [requireReadonly, if_pos any]
        trivial
      · simp only [requireReadonly, if_neg any]
        refine (asks_fetchOne shown).bind ?_
        intro row
        refine (asks_firstCell row).bind ?_
        intro cell
        by_cases on : tools.isOn cell = true
        · simp only [if_pos on]
          trivial
        · simp only [if_neg on]
          trivial

/-- Looking for a privilege asks for nothing. -/
theorem asks_anyFirst
    (tools : CellTools Cell)
    (text : String)
    (rows : List (List Cell)) :
    (anyFirst tools rows).Asks (AsksOnly text) := by
  induction rows with
  | nil =>
      trivial
  | cons row rest inductionHypothesis =>
      refine (asks_firstCell (some row)).bind ?_
      intro cell
      by_cases truthy : tools.truthy cell = true
      · simp only [if_pos truthy]
        trivial
      · simp only [if_neg truthy]
        exact inductionHypothesis

/-- The check of the privileges asks for statements of the tool. -/
theorem asks_checkPrivileges (tools : CellTools Cell) (text : String) :
    (checkPrivileges tools).Asks (AsksOnly text) := by
  refine (asks_inspection (by simp [inspectionStatements])).bind ?_
  intro result
  refine (asks_pgHeard result.rows).bind ?_
  intro rows
  refine (asks_anyFirst tools text rows).bind ?_
  intro writes
  cases writes with
  | true =>
      trivial
  | false =>
      trivial

/-- Setting the limits asks for statements of the tool. -/
theorem asks_setLimits
    {limits : List String}
    (text : String)
    (own : ∀ statement ∈ limits, statement ∈ limitStatements) :
    (setLimits limits : PgProgram Cell Unit).Asks (AsksOnly text) := by
  induction limits with
  | nil =>
      trivial
  | cons statement rest inductionHypothesis =>
      obtain ⟨isLimit, others⟩ := List.forall_mem_cons.mp own
      refine
        (asks_executed (.inl (List.mem_append_right _ isLimit))).bind ?_
      intro result
      exact inductionHypothesis others

/-- The body asks for statements of the tool and for the query. -/
theorem asks_inSession (tools : CellTools Cell) (text : String) :
    (inSession tools text).Asks (AsksOnly text) := by
  refine (asks_checkRole tools text).bind fun _ => ?_
  refine (asks_checkPrivileges tools text).bind fun _ => ?_
  refine (asks_setLimits text fun _ member => member).bind fun _ => ?_
  refine (asks_executed (.inr rfl)).bind fun result => ?_
  cases result.description with
  | none =>
      trivial
  | some columns =>
      exact (asks_pgHeard result.rows).bind fun _ => trivial

/-- The connection asks for no statement. -/
theorem asks_withConnection
    {Value : Type}
    {text : String}
    {body : PgProgram Cell Value}
    (asks : body.Asks (AsksOnly text)) :
    (withConnection body).Asks (AsksOnly text) := by
  refine ⟨trivial, fun connected => ?_⟩
  refine (asks_pgHeard connected).bind fun _ => ?_
  refine ⟨trivial, fun isSet => ?_⟩
  refine Program.Asks.bind ?_ ?_
  · refine Program.Asks.handle ?_ fun _ => trivial
    exact
      ((asks_pgHeard isSet).bind fun _ => asks).bind fun _ => trivial
  · intro ended
    cases ended with
    | ok value =>
        exact
          ⟨trivial, fun committed =>
            (asks_pgHeard committed).bind fun _ => trivial⟩
    | error message =>
        exact ⟨trivial, fun _ => trivial⟩

/-- The tool asks for its own statements and for the validated query. -/
theorem asks_queryDatabaseReadonly
    {glot : Sqlglot}
    {query : String}
    {validated : SafeQuery}
    (tools : CellTools Cell)
    (refDbUrl : String)
    (accepted : validateReadonlySql glot query = .ok validated) :
    (queryDatabaseReadonly tools glot refDbUrl query).Asks
      (AsksOnly validated.query) := by
  unfold queryDatabaseReadonly
  simp only [accepted]
  by_cases isPostgres : startsWith refDbUrl "postgresql" = true
  · simp only [if_pos isPostgres]
    refine Program.Asks.handle ?_ fun _ => trivial
    exact asks_withConnection (asks_inSession tools validated.query)
  · simp only [if_neg isPostgres]
    trivial

/-- The wrapped tool asks for no other statements. -/
theorem asks_queryDatabaseTool
    {glot : Sqlglot}
    {query : String}
    {validated : SafeQuery}
    (json : JsonTools)
    (tools : CellTools Cell)
    (refDbUrl : String)
    (accepted : validateReadonlySql glot query = .ok validated) :
    (queryDatabaseTool json tools glot refDbUrl query).Asks
      (AsksOnly validated.query) := by
  unfold queryDatabaseTool
  cases toolInputLimit json (queryArguments query) with
  | error failure =>
      exact asks_pgHeard _
  | ok _ =>
      exact
        (asks_queryDatabaseReadonly tools refDbUrl accepted).bind
          fun reply => asks_pgHeard _

/-- PostgreSQL keeps the database while it serves the tool. -/
theorem ServesReference.database
    {world after : ReferenceWorld Cell}
    {request : PgRequest}
    {answer : PgAnswer Cell request}
    (serves : ServesReference tools server world request answer after) :
    after.database = world.database := by
  cases serves <;> rfl

/--
What a steady PostgreSQL answers: the query by the state of the database, and
everything else always the same.
-/
def Steadily
    (server : ReferenceServer Cell)
    (answers : (request : PgRequest) → PgAnswer Cell request)
    (database : Sql.Database Cell) :
    (request : PgRequest) → PgAnswer Cell request
  | .execute statement =>
      if statement ∈ ownStatements then
        answers (.execute statement)
      else
        server.execute statement database
  | request => answers request

/-- A steady PostgreSQL, to which nobody else writes. -/
def steadySurroundings
    (tools : CellTools Cell)
    (server : ReferenceServer Cell)
    (answers : (request : PgRequest) → PgAnswer Cell request) :
    Program.Surroundings (ReferenceWorld Cell) PgRequest
      (PgAnswer Cell) where
  serves world request answer after :=
    ServesReference tools server world request answer after ∧
      answer = Steadily server answers world.database request
  interferes before after := after = before

/-- Worlds whose databases agree on the allowed schema. -/
def ReferenceWorld.Alike (left right : ReferenceWorld Cell) : Prop :=
  AgreesOnAllowedSchema left.database right.database

/-- A server whose queries are executed as some SQL engine executes them. -/
structure ReferenceServer.ExecutesBy
    (server : ReferenceServer Cell)
    (columns : String → Option (List String))
    (execute :
      String → Sql.Database Cell → Except String (Sql.Rows Cell)) :
    Prop where
  queries :
    ∀ statement database,
      server.execute statement database =
        (execute statement database).map fun rows =>
          ⟨columns statement, .ok rows⟩

/--
The columns that the validator hides stay hidden behind the tool: on two states
of the database that agree on the allowed schema it ends the same, with a reply
or an exception, for a query that reaches no hidden column by a joined column, a
column alias or a whole row, whatever the connection, the checks of the role and
the limits come to.
-/
theorem readonly_reply_confidential
    {json : JsonTools}
    {glot : Sqlglot}
    {refDbUrl text : String}
    {validated : SafeQuery}
    {query : Sql.Query}
    {answers : (request : PgRequest) → PgAnswer Cell request}
    {columns : String → Option (List String)}
    {engine : Sql.Engine Cell String}
    {execute :
      String → Sql.Database Cell → Except String (Sql.Rows Cell)}
    {left right leftFinal rightFinal : ReferenceWorld Cell}
    {leftExchanges rightExchanges :
      List
        (Program.Exchange (ReferenceWorld Cell) PgRequest (PgAnswer Cell))}
    {leftOutcome rightOutcome : Program.Outcome String Json}
    (accepted : validateReadonlySql glot text = .ok validated)
    (parsed : glot.parse text = .ok [some (.query query)])
    (discreet : Discreet query)
    (executes : server.ExecutesBy columns execute)
    (mirrors : Mirrors engine glot execute query)
    (agree : AgreesOnAllowedSchema left.database right.database)
    (leftExecution :
      Program.Execution (steadySurroundings tools server answers)
        (queryDatabaseTool json tools glot refDbUrl text) left
        leftExchanges leftOutcome leftFinal)
    (rightExecution :
      Program.Execution (steadySurroundings tools server answers)
        (queryDatabaseTool json tools glot refDbUrl text) right
        rightExchanges rightOutcome rightFinal) :
    leftOutcome = .died ∨ rightOutcome = .died ∨
      leftOutcome = rightOutcome := by
  obtain ⟨found, isFound⟩ := validateReadonlySql_accepted accepted
  have same := isFound.parsed
  rw [parsed] at same
  cases same
  have alike : left.Alike right := agree
  have answeredAlike :
      ∀ {world other : ReferenceWorld Cell} {request : PgRequest},
        world.Alike other →
        AsksOnly validated.query request →
        Steadily server answers world.database request =
          Steadily server answers other.database request := by
    intro world other request alike asked
    cases request with
    | execute statement =>
        by_cases own : statement ∈ ownStatements
        · simp only [Steadily, if_pos own]
        · obtain rfl := asked.resolve_left own
          have sameRows :=
            mirrors.bounded
              (Sql.Query.run_agrees
                (AgreesOnAllowedSchema.databases alike)
                (isFound.silent discreet))
          simp only [Steadily, if_neg own]
          rw [executes.queries, executes.queries, isFound.returned,
            sameRows]
    | _ =>
        rfl
  refine
    Program.Asks.indistinguishable
      (asks_queryDatabaseTool json tools refDbUrl accepted) ?_ ?_ alike
      leftExecution rightExecution
  · rintro world other _ _ alike rfl rfl
    exact alike
  · rintro world other request _ _ _ _ alike asked
      ⟨leftServes, rfl⟩ ⟨rightServes, rfl⟩
    refine ⟨answeredAlike alike asked, ?_⟩
    unfold ReferenceWorld.Alike
    rw [leftServes.database, rightServes.database]
    exact alike

/-- The answers of the quiet server to everything but the query. -/
def quietAnswers : (request : PgRequest) → PgAnswer String request
  | .connect => .ok ()
  | .setReadOnly => .ok ()
  | .execute statement => .ok (quietResult statement)
  | .commit => .ok ()
  | .rollback => ()

/-- The quiet server is steady. -/
theorem serveQuietly_steadily
    {world served : ReferenceWorld String}
    {request : PgRequest}
    {answer : PgAnswer String request}
    (answered : serveQuietly world request = some (answer, served)) :
    answer = Steadily quietServer quietAnswers world.database request := by
  cases request with
  | connect =>
      cases answered
      rfl
  | setReadOnly =>
      obtain ⟨session, isOpen, same⟩ := Option.map_eq_some_iff.mp answered
      cases same
      rfl
  | execute statement =>
      obtain ⟨session, isOpen, rest⟩ := Option.bind_eq_some_iff.mp answered
      by_cases limits : statement ∈ limitStatements
      · have own : statement ∈ ownStatements :=
          List.mem_append_right _ limits
        simp only [if_pos limits] at rest
        cases rest
        simp only [Steadily, if_pos own, quietAnswers]
      · by_cases own : statement ∈ ownStatements
        · simp only [if_neg limits, if_pos own] at rest
          cases rest
          simp only [Steadily, if_pos own, quietAnswers]
        · simp only [if_neg limits, if_neg own] at rest
          simp only [Steadily, if_neg own]
          cases returned :
              quietServer.execute statement world.database with
          | error message =>
              rw [returned] at rest
              cases rest
              rfl
          | ok result =>
              rw [returned] at rest
              cases rest
              rfl
  | commit =>
      cases answered
      rfl
  | rollback =>
      cases answered
      rfl

/-- What the tool exchanges with the quiet server it does undisturbed. -/
theorem steady_of_askedQuietly
    {names : List String}
    {exchanges :
      List
        (Program.Exchange (ReferenceWorld String) PgRequest
          (PgAnswer String))}
    {outcome : Program.Outcome String Json}
    {final : ReferenceWorld String}
    (asked : askedQuietly names = some (exchanges, outcome, final)) :
    Program.Execution
      (steadySurroundings textTools quietServer quietAnswers)
      (queryDatabaseTool sampleJsonTools textTools
        (sqlglotFor identifiersText identifiersQuery) "postgresql://db"
        identifiersText)
      (quietWorld names) exchanges outcome final :=
  Program.execution_of_record (fun _ _ => rfl)
    (fun _ _ _ _ answered =>
      ⟨serveQuietly_serves answered, serveQuietly_steadily answered⟩)
    asked

/-- One customer may have another name without the allowed columns changing. -/
theorem customersNamed_agree (first second : String) :
    AgreesOnAllowedSchema (customersNamed [first])
      (customersNamed [second]) := by
  intro table columns listed
  by_cases isCustomers : table = "customers"
  · subst isCustomers
    cases listed
    refine .cons ?_ .nil
    intro column member
    obtain rfl := List.mem_singleton.mp member
    rfl
  · have empty : ∀ names, customersNamed names table = [] := by
      intro names
      unfold customersNamed
      split
      · exact absurd rfl isCustomers
      · rfl
    rw [empty, empty]
    exact .nil

/-- The name of a customer does not show in the reply about identifiers. -/
theorem readonly_reply_confidential_identifiers :
    ∃ (annValue bobValue : Json)
      (annExchanges bobExchanges :
        List
          (Program.Exchange (ReferenceWorld String) PgRequest
            (PgAnswer String)))
      (annFinal bobFinal : ReferenceWorld String),
      askedQuietly ["Ann"] =
          some (annExchanges, .returned annValue, annFinal) ∧
        askedQuietly ["Bob"] =
            some (bobExchanges, .returned bobValue, bobFinal) ∧
          annValue = bobValue := by
  have accepted :
      validateReadonlySql (sqlglotFor identifiersText identifiersQuery)
          identifiersText =
        .ok ⟨"Select", identifiersText ++ " LIMIT 100"⟩ := by
    decide +kernel
  have parsed :
      (sqlglotFor identifiersText identifiersQuery).parse
          identifiersText =
        .ok [some (.query identifiersQuery)] := by
    simp [sqlglotFor]
  have replies :
      ∀ name ∈ ["Ann", "Bob"],
        (askedQuietly [name]).any
            (fun ended => (returnedValue ended.2.1).isSome) =
          true := by
    decide +kernel
  obtain ⟨⟨annExchanges, annOutcome, annFinal⟩, annAsked, annHolds⟩ :=
    (Option.any_eq_true _ _).mp (replies "Ann" (by simp))
  obtain ⟨⟨bobExchanges, bobOutcome, bobFinal⟩, bobAsked, bobHolds⟩ :=
    (Option.any_eq_true _ _).mp (replies "Bob" (by simp))
  obtain ⟨annValue, annReturned⟩ := Option.isSome_iff_exists.mp annHolds
  obtain ⟨bobValue, bobReturned⟩ := Option.isSome_iff_exists.mp bobHolds
  obtain rfl := returnedValue_eq_some annReturned
  obtain rfl := returnedValue_eq_some bobReturned
  have executes :
      quietServer.ExecutesBy (fun _ => some ["id"])
        (executeFor identifiersText identifiersQuery) :=
    ⟨fun _ _ => rfl⟩
  have ends :=
    readonly_reply_confidential accepted parsed (by decide) executes
      (executeFor_mirrors rfl) (customersNamed_agree "Ann" "Bob")
      (steady_of_askedQuietly annAsked) (steady_of_askedQuietly bobAsked)
  have sameValue : annValue = bobValue := by
    rcases ends with died | died | same
    · cases died
    · cases died
    · cases same
      rfl
  exact
    ⟨annValue, bobValue, annExchanges, bobExchanges, annFinal, bobFinal,
      annAsked, bobAsked, sameValue⟩

end IncidentPilot
