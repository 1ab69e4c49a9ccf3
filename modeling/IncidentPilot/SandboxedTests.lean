import IncidentPilot.SandboxContainment

/-!
# What a test run does to its machine

A test runs in a container without a network, without privileges and with
nothing mounted but its own workspace, read-only; outside a container it runs in
development only.  However a call ends, none of its processes live on, but for
one that `create_subprocess_exec` started and did not return.
-/

namespace IncidentPilot

/-- The test is one of those the server allows under the profile. -/
def AllowedTest (profile : String) (test : List String) : Prop :=
  (profile, test) ∈ allowedTestCommands

namespace TestCall

/--
The command is the `docker run` of `dockerOptions`, option by option, with the
image of the settings and an allowed test of the run.
-/
def RunsIsolated
    (call : TestCall)
    (settings : SandboxSettings)
    (command : SpawnCommand) : Prop :=
  ∃ root test,
    call.root = some root ∧
      AllowedTest call.profile test ∧
      command.args =
        call.dockerOptions root ++ settings.sandboxImage :: test ∧
      command.cwd = some (root ++ "/repo") ∧
      command.env = none

/--
The command runs an allowed test of the run with the interpreter of the caller,
of whose environment it inherits the listed variables alone.
-/
def RunsLocally
    (upper : String → String)
    (call : TestCall)
    (command : SpawnCommand) : Prop :=
  ∃ root test environment,
    call.root = some root ∧
      AllowedTest call.profile test ∧
      command.args = call.executable :: test.tail ∧
      command.cwd = some (root ++ "/repo") ∧
      command.env = some environment ∧
      ∀ entry ∈ environment,
        (entry ∈ call.environ ∧ upper entry.1 ∈ inheritedVariables) ∨
          entry.1 ∈
            ["PYTHONPATH", "PYTHONDONTWRITEBYTECODE", "PYTEST_ADDOPTS"]

/-- What a call may start: tests that are contained, and its removal. -/
def Contained
    (upper : String → String)
    (call : TestCall)
    (settings : SandboxSettings)
    (command : SpawnCommand) : Prop :=
  (settings.sandboxEnabled = true ∧
      (RemovesContainer call.container command.args ∨
        call.RunsIsolated settings command)) ∨
    (settings.sandboxEnabled = false ∧
      settings.environment ∈ ["development", "test"] ∧
      call.RunsLocally upper command)

end TestCall

/-- No test is run by a command that starts a container. -/
theorem AllowedTest.starts_none
    {profile : String}
    {test : List String}
    (allowed : AllowedTest profile test)
    (executable name : String) :
    ¬ StartsContainer name (executable :: test.tail) := by
  have second :
      ∀ entry ∈ allowedTestCommands, entry.2.tail.head? = some "-m" := by
    decide
  have head := second _ allowed
  rintro ⟨rest, starts⟩
  simp only [List.cons_append, List.cons.injEq] at starts
  rw [← starts.2] at head
  simp at head

namespace TestCall

variable {upper : String → String} {call : TestCall}
variable {settings : SandboxSettings} {root : String}
variable {test : List String}

/-- The checks find a workspace and an allowed test, and demand a container. -/
theorem checked_ok
    (planned : call.checked settings = .ok (root, test)) :
    call.root = some root ∧
      AllowedTest call.profile test ∧
      (settings.sandboxEnabled = false →
        settings.environment ∈ ["development", "test"]) := by
  unfold checked at planned
  split at planned
  · cases planned
  · rename_i found listed
    split at planned
    · cases planned
    · rename_i held hasRoot
      split at planned
      · cases planned
      · split at planned
        · cases planned
        · rename_i unprotected
          split at planned
          · cases planned
          · cases planned
            obtain ⟨before, after, split, -⟩ :=
              List.lookup_eq_some_iff.mp listed
            refine ⟨hasRoot, ?_, ?_⟩
            · unfold AllowedTest
              rw [split]
              simp
            · intro disabled
              by_contra elsewhere
              apply unprotected
              refine ⟨?_, disabled⟩
              simpa [SandboxSettings.isProtected] using elsewhere

/-- The command of a planned test is contained. -/
theorem command_contained
    (planned : call.checked settings = .ok (root, test)) :
    call.Contained upper settings
      (call.command upper settings root test) := by
  obtain ⟨hasRoot, allowed, demands⟩ := checked_ok planned
  by_cases enabled : settings.sandboxEnabled = true
  · refine .inl ⟨enabled, .inr ?_⟩
    simp only [command, enabled, ↓reduceIte]
    exact ⟨root, test, hasRoot, allowed, rfl, rfl, rfl⟩
  · have disabled := eq_false_of_ne_true enabled
    refine .inr ⟨disabled, demands disabled, ?_⟩
    simp only [command, disabled, Bool.false_eq_true, ↓reduceIte]
    refine
      ⟨root, test, call.localEnvironment upper root, hasRoot, allowed, ?_,
        rfl, rfl, ?_⟩
    · simp [unisolated]
    · intro entry member
      rcases List.mem_append.mp member with inherited | added
      · have kept := List.mem_filter.mp inherited
        exact .inl ⟨kept.1, by simpa using kept.2⟩
      · refine .inr ?_
        simp only [List.mem_cons, List.not_mem_nil, or_false] at added
        rcases added with rfl | rfl | rfl <;> simp

end TestCall

/-- The request starts a process. -/
def spawns : SandboxRequest → Bool
  | .spawn .. => true
  | _ => false

/-- A request that starts a process starts it by a command. -/
theorem exists_spawn_of_spawns
    {request : SandboxRequest}
    (spawned : spawns request = true) :
    ∃ owner command, request = .spawn owner command := by
  cases request with
  | spawn owner command => exact ⟨owner, command, rfl⟩
  | _ => cases spawned

/-- The requests of a call whose commands are all of a kind. -/
def SpawnsOnly (kind : SpawnCommand → Prop) : SandboxRequest → Prop
  | .spawn _ command => kind command
  | _ => True

/-- What is heard is passed on without asking. -/
theorem sandboxHeard_asks
    {Value : Type}
    {kind : SandboxRequest → Prop}
    (answer : Except SandboxException Value) :
    (sandboxHeard answer).Asks kind := by
  cases answer <;> trivial

/-- The `try` of `run_process` starts nothing. -/
theorem converse_asks
    {kind : SpawnCommand → Prop}
    (pid timeout : Nat) :
    (converse pid timeout).Asks (SpawnsOnly kind) := by
  refine ⟨trivial, ?_⟩
  intro answer
  cases answer with
  | failed exception =>
      trivial
  | finished code stdout stderr =>
      apply (sandboxHeard_asks (drain stdout)).bind
      intro out
      apply (sandboxHeard_asks (drain stderr)).bind
      intro err
      trivial

/-- The `finally` of `run_process` starts nothing. -/
theorem endProcess_asks
    {kind : SpawnCommand → Prop}
    (pid : Nat) :
    (endProcess pid).Asks (SpawnsOnly kind) := by
  refine ⟨trivial, fun _ => ⟨trivial, fun reaped => ?_⟩⟩
  apply (sandboxHeard_asks reaped).bind
  exact fun _ => ⟨trivial, fun stopped => sandboxHeard_asks stopped⟩

/-- `run_process` starts its command and nothing else. -/
theorem runProcess_asks
    {kind : SpawnCommand → Prop}
    {command : SpawnCommand}
    (owner : String)
    (timeout : Nat)
    (isKind : kind command) :
    (runProcess owner command timeout).Asks (SpawnsOnly kind) := by
  refine ⟨isKind, fun spawned => ?_⟩
  apply (sandboxHeard_asks spawned).bind
  exact fun pid => (converse_asks pid timeout).finallyDo (endProcess_asks pid)

/-- Between two steps of a call none of its processes that it knows is alive. -/
structure SandboxWorld.Between
    (call : TestCall)
    (settings : SandboxSettings)
    (world : SandboxWorld) : Prop where
  calm : world.Calm call.container
  uncontained :
    world.abandoned = [] →
    settings.sandboxEnabled = false →
    world.containers call.container = false

/--
Nothing of a call is left that it knows of: each of its processes that is alive
was abandoned, and where none was, its container does not run unless its removal
has failed.
-/
structure SandboxWorld.Cleared
    (container : String)
    (world : SandboxWorld) : Prop where
  calm : world.Calm container
  gone :
    world.abandoned = [] →
    world.containers container = false ∨ world.unremoved = true

/--
What a result reports has happened: its command has exited so, and the files of
the workspace were before the test what they were after it.
-/
structure SandboxResult.Observed
    (result : SandboxResult)
    (before : Snapshot)
    (start final : SandboxWorld) : Prop where
  exited : (result.command, result.exitCode) ∈ final.exits
  succeeded : result.ok = true ↔ result.exitCode = 0
  unchanged : final.snapshots = before :: start.snapshots

namespace TestCall

variable {upper : String → String} {call : TestCall}
variable {settings : SandboxSettings} {root : String}
variable {test : List String} {start world : SandboxWorld}

/-- `run_tests_async` starts what is contained and nothing else. -/
theorem runTestsAsync_asks :
    (call.runTestsAsync upper settings).Asks
      (SpawnsOnly (call.Contained upper settings)) := by
  unfold runTestsAsync
  cases planned : call.checked settings with
  | error exception =>
      trivial
  | ok plan =>
      obtain ⟨root, test⟩ := plan
      refine ⟨trivial, fun taken => ?_⟩
      apply (sandboxHeard_asks taken).bind
      intro beforeTests
      apply Program.Asks.finallyDo
      · apply (runProcess_asks _ _ (command_contained planned)).bind
        refine fun ran => ⟨trivial, fun taken => ?_⟩
        apply (sandboxHeard_asks taken).bind
        intro afterTests
        by_cases changed : afterTests ≠ beforeTests
        · rw [if_pos changed]
          trivial
        · rw [if_neg changed]
          trivial
      · unfold cleanUp
        by_cases enabled : settings.sandboxEnabled = true
        · rw [if_pos enabled]
          apply (runProcess_asks _ _ (.inl ⟨enabled, .inl rfl⟩)).bind
          exact fun _ => trivial
        · rw [if_neg enabled]
          trivial

/-- Between two steps of a call nothing of it starts. -/
theorem between_of_drift
    {after : SandboxWorld}
    (between : world.Between call settings)
    (drift : SandboxDrift call.container world after) :
    after.Between call settings where
  calm := drift.calm between.calm
  uncontained alone disabled := by
    rw [drift.abandoned] at alone
    refine drift.quiet ?_ (between.uncontained alone disabled)
    intro pid group found owned
    have member := between.calm pid group found owned
    rw [alone] at member
    cases member

/-- Once a test has ended its call is between two steps. -/
theorem between_of_ended
    {code : Option Int}
    (allowed : AllowedTest call.profile test)
    (between : start.Between call settings)
    (ended :
      start.Ended call.container
        (call.command upper settings root test).args code world) :
    world.Between call settings where
  calm := ended.calm
  uncontained alone disabled := by
    have before := ended.follows.abandoned alone
    refine
      ended.follows.quiet alone ?_ (between.uncontained before disabled)
    simp only [command, disabled, Bool.false_eq_true, ↓reduceIte]
    have starts := allowed.starts_none call.executable call.container
    simpa [unisolated] using starts

/-- The `try` of `run_tests_async` returns what it has observed. -/
theorem attempt_keeps
    (beforeTests : Snapshot)
    (planned : call.checked settings = .ok (root, test))
    (between : start.Between call settings) :
    (call.attempt upper settings root test beforeTests).Keeps
      (sandboxSurroundings call.container)
      (fun _ _ => True) start
      (fun result final =>
        final.Between call settings ∧
          result.Observed beforeTests start final)
      (fun _ final => final.Between call settings) := by
  have allowed := (checked_ok planned).2.1
  apply Program.Keeps.bind
  refine
    (runProcess_keeps call.timeout between.calm).mono
      (fun _ _ permitted => permitted) ?_ ?_
  · intro ran middle ended
    have stillBetween := between_of_ended allowed between ended
    refine Program.Keeps.ask ?_
    intro disturbed drift
    refine ⟨trivial, ?_⟩
    have later := between_of_drift stillBetween drift
    intro answer served serves
    cases serves with
    | snapshotFails exception =>
        exact Program.Keeps.raise later
    | snapshot taken =>
        have untouched :
            ({ disturbed with
                snapshots := taken :: disturbed.snapshots } :
              SandboxWorld).Between call settings :=
          ⟨later.calm, later.uncontained⟩
        change
          (if taken ≠ beforeTests then
            Program.raise _
          else
            Program.done _ : SandboxProgram SandboxResult).Keeps _ _ _ _ _
        by_cases changed : taken ≠ beforeTests
        · rw [if_pos changed]
          exact .raise untouched
        · rw [if_neg changed]
          refine .done ⟨untouched, ?_, by simp, ?_⟩
          · change _ ∈ disturbed.exits
            rw [drift.exits]
            exact ended.exited ran.1 rfl
          · have same : taken = beforeTests := not_not.mp changed
            change taken :: disturbed.snapshots = _
            rw [drift.snapshots, ended.follows.snapshots, same]
  · rintro exception final ⟨code, ended⟩
    exact between_of_ended allowed between ended

/-- The `finally` of `run_tests_async` removes the container, or fails to. -/
theorem cleanUp_keeps
    (between : start.Between call settings) :
    (call.cleanUp settings).Keeps (sandboxSurroundings call.container)
      (fun _ _ => True) start
      (fun _ final =>
        final.Cleared call.container ∧
          final.snapshots = start.snapshots ∧
          ∀ exit ∈ start.exits, exit ∈ final.exits)
      (fun _ final => final.Cleared call.container) := by
  unfold cleanUp
  by_cases enabled : settings.sandboxEnabled = true
  · rw [if_pos enabled]
    apply Program.Keeps.bind
    refine
      (runProcess_keeps 15 between.calm).mono
        (fun _ _ permitted => permitted) ?_ ?_
    · intro ran final ended
      exact
        .done
          ⟨⟨ended.calm, fun alone => ended.removed alone rfl⟩,
            ended.follows.snapshots, ended.follows.exits⟩
    · rintro exception final ⟨code, ended⟩
      exact ⟨ended.calm, fun alone => ended.removed alone rfl⟩
  · rw [if_neg enabled]
    have disabled := eq_false_of_ne_true enabled
    exact
      .done
        ⟨⟨between.calm, fun alone =>
            .inl (between.uncontained alone disabled)⟩,
          rfl, fun _ member => member⟩

/--
`run_tests_async` leaves nothing of its call behind, and returns what it has
observed.
-/
theorem runTestsAsync_keeps
    (calm : start.Calm call.container)
    (absent : start.containers call.container = false) :
    (call.runTestsAsync upper settings).Keeps
      (sandboxSurroundings call.container)
      (fun _ _ => True) start
      (fun result final =>
        final.Cleared call.container ∧
          ∃ taken,
            result.Observed taken
              { start with snapshots := taken :: start.snapshots } final)
      (fun _ final => final.Cleared call.container) := by
  unfold runTestsAsync
  cases planned : call.checked settings with
  | error exception =>
      exact Program.Keeps.raise ⟨calm, fun _ => .inl absent⟩
  | ok plan =>
      obtain ⟨root, test⟩ := plan
      refine Program.Keeps.ask ?_
      intro disturbed drift
      refine ⟨trivial, ?_⟩
      have between : disturbed.Between call settings :=
        between_of_drift ⟨calm, fun _ _ => absent⟩ drift
      intro answer served serves
      cases serves with
      | snapshotFails exception =>
          refine Program.Keeps.raise ⟨between.calm, fun alone => .inl ?_⟩
          rw [drift.abandoned] at alone
          refine drift.quiet ?_ absent
          intro pid group found owned
          have member := calm pid group found owned
          rw [alone] at member
          cases member
      | snapshot taken =>
          have taking :
              ({ disturbed with
                  snapshots := taken :: disturbed.snapshots } :
                SandboxWorld).Between call settings :=
            ⟨between.calm, between.uncontained⟩
          apply Program.Keeps.finallyDo
          refine
            (attempt_keeps taken planned taking).mono
              (fun _ _ permitted => permitted) ?_ ?_
          · rintro result middle ⟨later, observed⟩
            refine
              (cleanUp_keeps later).mono
                (fun _ _ permitted => permitted) ?_
                (fun _ _ cleared => cleared)
            rintro _ final ⟨cleared, snapshots, exits⟩
            refine
              ⟨cleared, taken, exits _ observed.exited,
                observed.succeeded, ?_⟩
            rw [snapshots, observed.unchanged, drift.snapshots]
          · intro exception middle later
            exact
              (cleanUp_keeps later).mono
                (fun _ _ permitted => permitted)
                (fun _ _ cleaned => cleaned.1)
                (fun _ _ cleared => cleared)

end TestCall

/-- An execution of `run_tests_async`, among everything else on its machine. -/
abbrev SandboxExecution
    (upper : String → String)
    (call : TestCall)
    (settings : SandboxSettings) :=
  Program.Execution (sandboxSurroundings call.container)
    (call.runTestsAsync upper settings)

/-- Nothing has the name of the container, and nothing was told. -/
structure SandboxWorld.Fresh
    (container : String)
    (world : SandboxWorld) : Prop where
  calm : world.Calm container
  absent : world.containers container = false
  untold : world.snapshots = [] ∧ world.exits = []

/-- A process was to be started, and the request has raised. -/
def startFailed :
    Program.Exchange SandboxWorld SandboxRequest SandboxAnswer → Bool
  | ⟨_, .spawn _ _, .error _⟩ => true
  | _ => false

/-- A request that does not fail to start a process abandons none. -/
theorem ServesSandbox.abandoned
    {container : String}
    {world after : SandboxWorld}
    {request : SandboxRequest}
    {answer : SandboxAnswer request}
    (serves : ServesSandbox container world request answer after)
    (started : startFailed ⟨world, request, answer⟩ = false) :
    after.abandoned = world.abandoned := by
  cases serves with
  | snapshot taken => rfl
  | snapshotFails exception => rfl
  | spawn owner command free => rfl
  | spawnFails owner command exception => cases started
  | spawnAbandons owner command exception free => cases started
  | finished timeout code stdout stderr runs =>
      by_cases drained : Drained stdout stderr = true
      · rw [if_pos drained]
        rfl
      · rw [if_neg drained]
        rfl
  | failed timeout exception runs => rfl
  | killGroup pid => rfl
  | reap pid answer => rfl
  | stopReaders pid answer => rfl

/-- An execution that starts all its processes abandons none. -/
theorem abandoned_of_started
    {container : String}
    {Value : Type}
    {program : SandboxProgram Value}
    {start final : SandboxWorld}
    {exchanges :
      List (Program.Exchange SandboxWorld SandboxRequest SandboxAnswer)}
    {outcome : Program.Outcome SandboxException Value}
    (ran :
      Program.Execution (sandboxSurroundings container) program start
        exchanges outcome final)
    (started : ∀ exchange ∈ exchanges, startFailed exchange = false) :
    final.abandoned = start.abandoned := by
  induction ran with
  | done value world => rfl
  | raise error world => rfl
  | died request resume world => rfl
  | ask drift serves rest inductionHypothesis =>
      obtain ⟨first, others⟩ := List.forall_mem_cons.mp started
      have served := ServesSandbox.abandoned serves first
      have drifted := SandboxDrift.abandoned drift
      exact (inductionHypothesis others).trans (served.trans drifted)

section Executions

variable {upper : String → String} {call : TestCall}
variable {settings : SandboxSettings} {start final : SandboxWorld}
variable
  {exchanges :
    List (Program.Exchange SandboxWorld SandboxRequest SandboxAnswer)}
variable
  {outcome : Program.Outcome SandboxException SandboxResult}

/--
Every command that a call starts is the `docker run` of the source around an
allowed test of its run, or removes the container of the test; outside a
container tests run in development and test environments alone.
-/
theorem every_test_contained
    (ran : SandboxExecution upper call settings start exchanges outcome final) :
    ∀ exchange ∈ exchanges,
      ∀ owner command,
        exchange.request = .spawn owner command →
        call.Contained upper settings command := by
  intro exchange member owner command spawns
  have asked := (TestCall.runTestsAsync_asks.keeps start _ _ _ ran).1
  have only := asked exchange member
  rw [spawns] at only
  exact only

/--
However a call ends, whatever is cancelled or times out on the way, none of its
processes lives on but those that were abandoned when `create_subprocess_exec`
raised; and if every start of a process has returned, none of them lives on, and
the container does not unless its removal has failed.
-/
theorem tests_leave_nothing
    (fresh : start.Fresh call.container)
    (unabandoned : start.abandoned = [])
    (ended : outcome ≠ .died)
    (ran : SandboxExecution upper call settings start exchanges outcome final) :
    (∀ pid group,
        final.groups pid = some group →
        group.owner = call.container →
        pid ∈ final.abandoned) ∧
      ((∀ exchange ∈ exchanges, startFailed exchange = false) →
        (∀ pid group,
            final.groups pid = some group →
            group.owner ≠ call.container) ∧
          (final.containers call.container = false ∨
            final.unremoved = true)) := by
  have ends :=
    (TestCall.runTestsAsync_keeps fresh.calm fresh.absent _ _ _ ran).2
  have cleared : final.Cleared call.container := by
    cases outcome with
    | returned result =>
        exact ends.1
    | raised exception =>
        exact ends
    | died =>
        exact absurd rfl ended
  refine ⟨cleared.calm, fun started => ?_⟩
  have alone := (abandoned_of_started ran started).trans unabandoned
  refine ⟨?_, cleared.gone alone⟩
  intro pid group found owned
  have member := cleared.calm pid group found owned
  rw [alone] at member
  cases member

/--
A call reports the exit of the command it ran, on a workspace that was the same
before the test and after it.
-/
theorem reported_tests_observed
    {result : SandboxResult}
    (fresh : start.Fresh call.container)
    (ran :
      SandboxExecution upper call settings start exchanges (.returned result)
        final) :
    (result.command, result.exitCode) ∈ final.exits ∧
      (result.ok = true ↔ result.exitCode = 0) ∧
      ∃ taken, final.snapshots = [taken, taken] := by
  obtain ⟨-, taken, observed⟩ :=
    (TestCall.runTestsAsync_keeps fresh.calm fresh.absent _ _ _ ran).2
  refine ⟨observed.exited, observed.succeeded, taken, ?_⟩
  rw [observed.unchanged, fresh.untold.1]

end Executions

/-- A call that runs the regression test of a run. -/
def sampleTestCall : TestCall where
  runId := "RUN-1"
  profile := "pytest_regression"
  timeout := 120
  root := some "/tmp/incidentpilot-RUN-1"
  hasOracle := false
  uuid := "0f"
  executable := "/usr/bin/python"
  environ := []

/-- Settings under which tests are isolated. -/
def sampleSandboxSettings : SandboxSettings where
  environment := "production"
  sandboxEnabled := true
  sandboxNetwork := "none"
  sandboxImage := "python:3.12-slim"

/-- A machine on which nothing has happened. -/
def idleMachine : SandboxWorld where
  groups _ := none
  abandoned := []
  containers _ := false
  snapshots := []
  exits := []
  unremoved := false

/-- A machine on which every command succeeds at once. -/
def serveSmoothly
    (container : String)
    (world : SandboxWorld) :
    (asked : SandboxRequest) → Option (SandboxAnswer asked × SandboxWorld)
  | .snapshot =>
      some
        (.ok [("app.py", "5f")],
          { world with
            snapshots := [("app.py", "5f")] :: world.snapshots })
  | .spawn owner command =>
      if world.groups 7 = none then
        some
          (.ok 7,
            { world.launched container command.args with
              groups :=
                Function.update world.groups 7
                  (some ⟨owner, command.args⟩) })
      else
        none
  | .converse pid _ =>
      (world.groups pid).map fun group =>
        (.finished 0 [] [], world.exited container group.args 0)
  | .killGroup pid =>
      some
        ((), { world with
          groups := Function.update world.groups pid none })
  | .reap _ => some (.ok (), world)
  | .stopReaders _ => some (.ok (), world)

/-- A machine may be as smooth as that. -/
theorem serves_smoothly
    {container : String}
    {world served : SandboxWorld}
    {asked : SandboxRequest}
    {answer : SandboxAnswer asked}
    (answered :
      serveSmoothly container world asked = some (answer, served)) :
    ServesSandbox container world asked answer served := by
  cases asked with
  | snapshot =>
      cases answered
      exact .snapshot world _
  | spawn owner command =>
      by_cases free : world.groups 7 = none
      · simp only [serveSmoothly, if_pos free] at answered
        cases answered
        exact .spawn owner command free
      · simp only [serveSmoothly, if_neg free] at answered
        cases answered
  | converse pid timeout =>
      obtain ⟨group, runs, ⟨⟩⟩ := Option.map_eq_some_iff.mp answered
      exact .finished timeout 0 [] [] runs
  | killGroup pid =>
      cases answered
      exact .killGroup world pid
  | reap pid =>
      cases answered
      exact .reap world pid _
  | stopReaders pid =>
      cases answered
      exact .stopReaders world pid _

/-- The sample call, alone on the machine. -/
def recordedTest :
    Option
      (List
          (Program.Exchange SandboxWorld SandboxRequest SandboxAnswer) ×
        Program.Outcome SandboxException SandboxResult × SandboxWorld) :=
  (sampleTestCall.runTestsAsync id sampleSandboxSettings).record
    (fun world _ => world) (serveSmoothly sampleTestCall.container)
    idleMachine

/-- The sample call was recorded to start something, succeed and clean up. -/
def recordedSuccess
    (ended :
      List
          (Program.Exchange SandboxWorld SandboxRequest SandboxAnswer) ×
        Program.Outcome SandboxException SandboxResult × SandboxWorld) :
    Bool :=
  match ended.2.1 with
  | .returned result =>
      result.ok && ended.1.any (fun exchange => spawns exchange.request) &&
        !ended.2.2.unremoved &&
        ended.1.all (fun exchange => !startFailed exchange)
  | _ => false

/-- The sample call has such an execution. -/
theorem recordedTest_execution :
    ∃ exchanges result final,
      SandboxExecution id sampleTestCall sampleSandboxSettings idleMachine
          exchanges (.returned result) final ∧
        result.ok = true ∧
        final.unremoved = false ∧
        (∃ exchange ∈ exchanges, spawns exchange.request = true) ∧
        ∀ exchange ∈ exchanges, startFailed exchange = false := by
  have succeeded : recordedTest.any recordedSuccess = true := by
    decide +kernel
  obtain ⟨⟨exchanges, outcome, final⟩, recorded, success⟩ :=
    (Option.any_eq_true _ _).mp succeeded
  have ran :
      SandboxExecution id sampleTestCall sampleSandboxSettings idleMachine
        exchanges outcome final :=
    Program.execution_of_record
      (fun world _ => SandboxDrift.refl sampleTestCall.container world)
      (fun _ _ _ _ => serves_smoothly) recorded
  cases outcome with
  | returned result =>
      simp only [recordedSuccess, Bool.and_eq_true, List.any_eq_true,
        List.all_eq_true, Bool.not_eq_true'] at success
      obtain ⟨⟨⟨ok, spawned⟩, removed⟩, started⟩ := success
      exact
        ⟨exchanges, result, final, ran, ok, removed, spawned, started⟩
  | raised exception =>
      cases success
  | died =>
      cases success

/-- The idle machine is fresh. -/
theorem idleMachine_fresh :
    idleMachine.Fresh sampleTestCall.container where
  calm _ _ found := by cases found
  absent := rfl
  untold := ⟨rfl, rfl⟩

/-- The sample call starts a command, which is contained. -/
theorem every_test_contained_sample :
    ∃ command,
      sampleTestCall.Contained id sampleSandboxSettings command := by
  obtain
    ⟨exchanges, result, final, ran, -, -,
      ⟨exchange, member, spawned⟩, -⟩ :=
    recordedTest_execution
  obtain ⟨owner, command, isSpawn⟩ := exists_spawn_of_spawns spawned
  exact
    ⟨command,
      every_test_contained ran exchange member owner command isSpawn⟩

/-- The sample call leaves no process and no container behind. -/
theorem tests_leave_nothing_sample :
    ∃ final : SandboxWorld,
      (∀ pid group,
          final.groups pid = some group →
          group.owner ≠ sampleTestCall.container) ∧
        final.containers sampleTestCall.container = false := by
  obtain
    ⟨exchanges, result, final, ran, -, removed, -, started⟩ :=
    recordedTest_execution
  obtain ⟨-, nothing⟩ :=
    tests_leave_nothing idleMachine_fresh rfl (by simp) ran
  obtain ⟨calm, gone⟩ := nothing started
  refine ⟨final, calm, gone.resolve_right ?_⟩
  simp [removed]

/-- The sample call reports a success that it has observed. -/
theorem reported_tests_observed_sample :
    ∃ (result : SandboxResult) (final : SandboxWorld),
      result.ok = true ∧
        (result.command, result.exitCode) ∈ final.exits ∧
        ∃ taken, final.snapshots = [taken, taken] := by
  obtain ⟨exchanges, result, final, ran, ok, -⟩ := recordedTest_execution
  obtain ⟨exited, -, unchanged⟩ :=
    reported_tests_observed idleMachine_fresh ran
  exact ⟨result, final, ok, exited, unchanged⟩

end IncidentPilot
