import IncidentPilot.WorkflowInvariant

/-!
# Replaying executions

Executions that nothing disturbs, with everyone outside answering by a function
of what is asked.  A replay computes, so that a run can be exhibited, and each of
its moves is a step of `workflow`.
-/

namespace IncidentPilot

/-- What the model, the tools and the sandbox answer. -/
abbrev Answers :=
  (request : WorkflowRequest) → WorkflowAnswer request

/-- Every checkout that is answered is clean and at the head it names. -/
def WorkflowSetup.SourceClean
    (setup : WorkflowSetup)
    (answers : Answers) : Prop :=
  ∀ checkout sha,
    answers .readSource = .ok checkout →
    checkout.head = some sha →
    checkout.dirty = false →
    checkout.files = setup.contentAt sha

section

variable (setup : WorkflowSetup) (answers : Answers)

/-- How a request is served when nothing fails that was not answered so. -/
def WorkflowSetup.serveAlone
    (claim : Option ClaimedRun)
    (world : WorkflowWorld) :
    (request : WorkflowRequest) →
      Option (WorkflowAnswer request × WorkflowWorld)
  | .transact write =>
      (world.commit setup (.fenced claim world.plane.clock write)).map
        fun after => (.ok (), after)
  | .persistArtifact artifact =>
      (world.persistArtifact setup claim world.plane.clock artifact).map
        fun persisted => (.ok persisted.1, persisted.2)
  | .freshId =>
      some (world.nextId, { world with nextId := world.nextId + 1 })
  | .runTests workspace attempt =>
      match answers (.runTests workspace attempt) with
      | .error message => some (.error message, world)
      | .ok report =>
          some
            (.ok ⟨report.exitCode, world.nextId⟩,
              { world with
                nextId := world.nextId + 1
                testExecutions :=
                  ⟨world.nextId, workspace, attempt,
                      report.exitCode⟩ ::
                    world.testExecutions })
  | .readSource => some (answers .readSource, world)
  | .plan => some (answers .plan, world)
  | .nextAction evidence => some (answers (.nextAction evidence), world)
  | .proposeHypothesis evidence =>
      some (answers (.proposeHypothesis evidence), world)
  | .directConclusion evidence =>
      some (answers (.directConclusion evidence), world)
  | .verificationAction evidence proposal =>
      some (answers (.verificationAction evidence proposal), world)
  | .verify proposal evidence =>
      some (answers (.verify proposal evidence), world)
  | .conclude proposal evidence =>
      some (answers (.conclude proposal evidence), world)
  | .patch rootCause evidence previousAttempts =>
      some (answers (.patch rootCause evidence previousAttempts), world)
  | .invokeTool name arguments =>
      some (answers (.invokeTool name arguments), world)
  | .patchFault files patchDiff =>
      some (answers (.patchFault files patchDiff), world)

/-- The next move of an execution that nothing disturbs. -/
def WorkflowSetup.advanceAlone
    (world : WorkflowWorld) :
    ExecutionPoint → Option (WorkflowWorld × ExecutionPoint)
  | .marking attempt =>
      (world.commit setup
        (.fenced attempt.claim world.plane.clock .markRunning)).map
          fun after => (after, .entering attempt)
  | .entering attempt =>
      let fresh := initialState world.store.run.runId setup.incident
      if attempt.recover = false ∨ world.thread.isEmpty then
        some
          (world.push ⟨some .plan, fresh⟩,
            .between attempt .plan (setup.settings.enter fresh))
      else
        match world.thread.head? with
        | none => none
        | some ⟨some node, state⟩ =>
            some
              (world, .between attempt node (setup.settings.enter state))
        | some ⟨none, state⟩ => some (world, .persisting attempt state)
  | .between attempt node session =>
      some
        (world,
          .running attempt node
            (node.program setup.tools setup.settings session))
  | .running attempt node (.ask request resume) =>
      (setup.serveAlone answers attempt.claim world request).map
        fun served =>
          (served.2, .running attempt node (resume served.1))
  | .running attempt node (.done session) =>
      match node.next setup.settings session with
      | some following =>
          some
            (world.push ⟨some following, session.state⟩,
              .between attempt following session)
      | none =>
          if node = .waitForApproval then
            some (world, .persisting attempt session.state)
          else
            some
              (world.push ⟨none, session.state⟩,
                .persisting attempt session.state)
  | .persisting attempt final =>
      (world.commit setup
        (.fenced attempt.claim world.plane.clock
          (investigationWrite setup.tools.json.sha256
            world.store.run.refreshed world.store.run.id final))).map
          fun after => (after, .finishing attempt final)
  | .finishing attempt final =>
      (world.commit setup
        (.fenced attempt.claim world.plane.clock
          (.markStatus .running
            (finalChange final world.plane.clock)))).map
          fun after => (after, .ended)
  | _ => none

/-- So many moves of an execution. -/
def WorkflowSetup.replay :
    Nat → WorkflowWorld × ExecutionPoint →
      Option (WorkflowWorld × ExecutionPoint)
  | 0, place => some place
  | moves + 1, place =>
      (setup.advanceAlone answers place.1 place.2).bind
        (WorkflowSetup.replay moves)

variable {setup} {answers}

/-- What is served alone is served. -/
theorem WorkflowSetup.serveAlone_serves
    {claim : Option ClaimedRun}
    {world after : WorkflowWorld}
    {request : WorkflowRequest}
    {answer : WorkflowAnswer request}
    (clean : setup.SourceClean answers)
    (served :
      setup.serveAlone answers claim world request =
        some (answer, after)) :
    setup.Serves claim world request answer after := by
  cases request with
  | transact write =>
      obtain ⟨_, committed, ⟨⟩⟩ := Option.map_eq_some_iff.mp served
      exact .inr ⟨rfl, _, committed⟩
  | persistArtifact artifact =>
      obtain ⟨_, persisted, ⟨⟩⟩ := Option.map_eq_some_iff.mp served
      exact .inr ⟨_, _, rfl, persisted⟩
  | freshId =>
      cases served
      exact ⟨rfl, rfl⟩
  | readSource =>
      cases served
      exact ⟨rfl, clean⟩
  | runTests workspace attempt =>
      simp only [serveAlone] at served
      split at served
      · cases served
        exact .inl ⟨_, rfl, rfl⟩
      · cases served
        exact .inr ⟨_, rfl, rfl⟩
  | _ =>
      cases served
      rfl

/-- A move alone is a move. -/
theorem WorkflowSetup.advances_of_advanceAlone
    {world after : WorkflowWorld}
    {point next : ExecutionPoint}
    (clean : setup.SourceClean answers)
    (advanced :
      setup.advanceAlone answers world point = some (after, next)) :
    setup.Advances world point after next := by
  cases point with
  | marking attempt =>
      obtain ⟨_, committed, ⟨⟩⟩ := Option.map_eq_some_iff.mp advanced
      exact .mark committed
  | entering attempt =>
      simp only [advanceAlone] at advanced
      split at advanced
      · rename_i fresh
        cases advanced
        exact .begin (fresh.imp_right List.isEmpty_iff.mp)
      · rename_i recovers
        have recover : attempt.recover = true := by
          simpa using fun kept => recovers (.inl kept)
        split at advanced
        · cases advanced
        · rename_i node state newest
          cases advanced
          exact .recover recover newest
        · rename_i state newest
          cases advanced
          exact .recoverEnd recover newest
  | between attempt node session =>
      cases advanced
      exact .enter _ attempt node session
  | running attempt node rest =>
      cases rest with
      | ask request resume =>
          obtain ⟨⟨answer, _⟩, served, ⟨⟩⟩ :=
            Option.map_eq_some_iff.mp advanced
          exact .serve (serveAlone_serves clean served)
      | done session =>
          simp only [advanceAlone] at advanced
          split at advanced
          · rename_i following follows
            cases advanced
            exact .complete follows
          · rename_i ends
            split at advanced
            · rename_i waits
              cases advanced
              subst waits
              exact .interrupt _ attempt session
            · rename_i noInterrupt
              cases advanced
              exact .last ends noInterrupt
      | raise error =>
          cases advanced
  | persisting attempt final =>
      obtain ⟨_, committed, ⟨⟩⟩ := Option.map_eq_some_iff.mp advanced
      exact .persist committed
  | finishing attempt final =>
      obtain ⟨_, committed, ⟨⟩⟩ := Option.map_eq_some_iff.mp advanced
      exact .finish committed
  | _ =>
      cases advanced

/-- What a replay comes to can be reached. -/
theorem WorkflowRuns.reachable_of_replay
    {runs : WorkflowRuns}
    {execution : Nat}
    {after : WorkflowWorld}
    {start point : ExecutionPoint}
    (moves : Nat)
    (reached : (workflow setup).Reachable runs)
    (stands : runs.executions execution = start)
    (clean : setup.SourceClean answers)
    (replayed :
      setup.replay answers moves (runs.world, start) =
        some (after, point)) :
    ∃ later,
      (workflow setup).Reachable later ∧
        later.world = after ∧ later.executions execution = point := by
  induction moves generalizing runs start with
  | zero =>
      cases replayed
      exact ⟨runs, reached, rfl, stands⟩
  | succ moves inductionHypothesis =>
      obtain ⟨⟨middle, next⟩, advanced, rest⟩ :=
        Option.bind_eq_some_iff.mp replayed
      have advances :
          setup.Advances runs.world (runs.executions execution) middle
            next :=
        stands ▸ WorkflowSetup.advances_of_advanceAlone clean advanced
      exact
        inductionHypothesis (reached.step (WorkflowStep.advance advances))
          (Function.update_self ..) rest

/-- The session of an execution that is between two nodes. -/
def ExecutionPoint.session : ExecutionPoint → Option Session
  | .between _ _ session => some session
  | _ => none

/-- Only between two nodes an execution has a session at rest. -/
theorem ExecutionPoint.session_eq_some
    {point : ExecutionPoint}
    {session : Session}
    (rests : point.session = some session) :
    ∃ attempt node, point = .between attempt node session := by
  cases point with
  | between attempt node inHand =>
      cases rests
      exact ⟨attempt, node, rfl⟩
  | _ =>
      cases rests

/-- A run that is admitted into an empty database. -/
def WorkflowRuns.admitted
    (id runId incidentPk : String)
    (startedAt : Instant) : WorkflowRuns where
  world :=
    { plane := .admitted id runId incidentPk startedAt
      nextId := 0
      thread := []
      testExecutions := [] }
  executions _ := .idle

/-- What the first execution of an admitted run comes to can be reached. -/
theorem WorkflowRuns.reachable_of_first
    {id runId incidentPk : String}
    {startedAt : Instant}
    {after : WorkflowWorld}
    {point : ExecutionPoint}
    (moves : Nat)
    (embedded : setup.deployment.embeddedWorkerEnabled = true)
    (clean : setup.SourceClean answers)
    (replayed :
      setup.replay answers moves
          ((WorkflowRuns.admitted id runId incidentPk startedAt).world,
            .marking ⟨none, false⟩) =
        some (after, point)) :
    ∃ runs,
      (workflow setup).Reachable runs ∧
        runs.world = after ∧ runs.executions 0 = point := by
  have begins :
      (workflow setup).initial
        (WorkflowRuns.admitted id runId incidentPk startedAt) :=
    ⟨⟨ControlPlane.admitted_initial id runId incidentPk startedAt, rfl,
      rfl⟩, fun _ => rfl⟩
  have started :
      (workflow setup).Reachable
        { world :=
            (WorkflowRuns.admitted id runId incidentPk startedAt).world
          executions := Function.update _ 0 (.marking ⟨none, false⟩) } :=
    (Machine.Reachable.initial begins).step (.start rfl embedded)
  exact
    WorkflowRuns.reachable_of_replay moves started rfl clean replayed

/-- What the first execution has in hand between two nodes can be reached. -/
theorem WorkflowRuns.session_of_first
    {id runId incidentPk : String}
    {startedAt : Instant}
    {session : Session}
    (moves : Nat)
    (embedded : setup.deployment.embeddedWorkerEnabled = true)
    (clean : setup.SourceClean answers)
    (replayed :
      (setup.replay answers moves
          ((WorkflowRuns.admitted id runId incidentPk startedAt).world,
            .marking ⟨none, false⟩)).bind
          (fun place => place.2.session) =
        some session) :
    ∃ runs attempt node,
      (workflow setup).Reachable runs ∧
        runs.executions 0 = .between attempt node session := by
  obtain ⟨⟨after, point⟩, reaches, rests⟩ :=
    Option.bind_eq_some_iff.mp replayed
  obtain ⟨attempt, node, rfl⟩ := ExecutionPoint.session_eq_some rests
  obtain ⟨runs, reached, -, stands⟩ :=
    reachable_of_first moves embedded clean reaches
  exact ⟨runs, attempt, node, reached, stands⟩

end

mutual

/-- `json.dumps` of a value without floats whose strings need no escape. -/
def plainDumps : Json → String
  | .null => "null"
  | .bool value => if value then "true" else "false"
  | .int value => toString value
  | .float _ => "0.0"
  | .string value => "\"" ++ value ++ "\""
  | .array items => "[" ++ plainItems items ++ "]"
  | .object fields => "\x7b" ++ plainFields fields ++ "\x7d"

/-- The items of an array, separated as `json.dumps` does. -/
def plainItems : List Json → String
  | [] => ""
  | [item] => plainDumps item
  | item :: rest => plainDumps item ++ ", " ++ plainItems rest

/-- The items of an object, separated as `json.dumps` does. -/
def plainFields : List (String × Json) → String
  | [] => ""
  | [(key, value)] => "\"" ++ key ++ "\": " ++ plainDumps value
  | (key, value) :: rest =>
      "\"" ++ key ++ "\": " ++ plainDumps value ++ ", " ++
        plainFields rest

end

/-- A patch that replaces one word of `app.py`. -/
def slowPatch : Json :=
  .object
    [("type", .string "simple_replace"),
      ("reason", .string "slow"),
      ("edits",
        .array
          [.object
            [("path", .string "app.py"), ("find", .string "slow"),
              ("replace", .string "fast")]])]

/-- A deployment with an embedded worker and one file to repair. -/
def appSetup : WorkflowSetup where
  tools :=
    { json :=
        { dumps := fun value => .ok (plainDumps value)
          dumpsSorted := plainDumps
          sha256 := id
          alnum := Char.isAlphanum
          reprName := fun name => "'" ++ name ++ "'" }
      patch :=
        { jsonLoads := fun text =>
            if text = plainDumps slowPatch then some slowPatch else none
          lower := fun text => text.map Char.toLower
          upper := fun text => text.map Char.toUpper
          numstat := fun _ => none
          gitApply := fun _ _ => .error ⟨128, "error: No valid patches"⟩
          jsonLoads_empty := by decide +kernel
          numstat_empty := rfl }
      dumpsIndented := plainDumps }
  settings :=
    { maxInvestigationSteps := 5
      maxToolCalls := 8
      maxPatchAttempts := 2
      investigationOnly := false
      evaluationStrategy := .autonomous
      sandboxFaultType := none
      registeredFaultTypes := []
      protectedEnvironment := false
      sandboxEnabled := true
      sandboxNetwork := "none"
      deterministic := false }
  deployment := ⟨2, 60, true⟩
  incident := ⟨"api", "app"⟩
  contentAt _ := [("app.py", "slow".toUTF8)]

/-- A model that reads metrics and logs, and whose first patch is right. -/
def appAnswers : Answers
  | .plan => .ok ⟨["read"], "latency"⟩
  | .nextAction evidence =>
      match evidence.length with
      | 0 =>
          .ok
            { action := .collectEvidence
              toolSelection :=
                some
                  ⟨"read_metrics", "latency",
                    .object [("service", .string "api")]⟩ }
      | 1 =>
          .ok
            { action := .collectEvidence
              toolSelection :=
                some
                  ⟨"read_logs", "errors",
                    .object [("service", .string "api")]⟩ }
      | _ => .ok { action := .formHypothesis }
  | .proposeHypothesis evidence =>
      .ok ⟨"slow loop", evidenceIds evidence, "high"⟩
  | .directConclusion _ => .error (.other "unused")
  | .verificationAction _ _ =>
      .ok
        { action := .verifyHypothesis
          toolSelection :=
            some
              ⟨"read_source_code", "loop",
                .object [("path", .string "app.py")]⟩ }
  | .verify _ _ => .ok ⟨true, "confirmed"⟩
  | .conclude _ evidence =>
      .ok
        { statement := "slow loop"
          faultCategory := "application_bug"
          affectedComponent := "app.py"
          causalFacts := ["loop"]
          supportingEvidenceIds := evidenceIds evidence
          confidence := "high" }
  | .patch _ _ _ => .ok (plainDumps slowPatch)
  | .invokeTool name _ => .returned (.object [("source", .string name)])
  | .freshId => (0 : Nat)
  | .readSource => .ok ⟨[("app.py", "slow".toUTF8)], some "base", false⟩
  | .patchFault _ _ => none
  | .runTests _ _ => .ok ⟨0, 0⟩
  | .transact _ => .ok ()
  | .persistArtifact _ => .ok (0 : Nat)

/-- The source that is answered is what is at its commit. -/
theorem appAnswers_clean : appSetup.SourceClean appAnswers := by
  intro checkout sha answered _ _
  cases answered
  rfl

end IncidentPilot
