import IncidentPilot.Library.Cleanup
import IncidentPilot.LogReading

/-!
# Tests in the sandbox

`run_process` of `sandbox/process.py` and `run_tests_async` of
`sandbox/manager.py`, as programs that ask the operating system.  Any request
that waits may be cancelled.  Killing the Docker client does not stop the
container it has started, so the cleanup has two layers: a process group is
killed, and a container is removed.
-/

namespace IncidentPilot

/-- The exceptions that the sandbox raises, or that reach it. -/
inductive SandboxException where
  | valueError (text : String)
  | runtimeError (text : String)
  | osError (text : String)
  | timeout
  | cancelled
  deriving Repr, DecidableEq

/-- What `create_subprocess_exec` is given. -/
structure SpawnCommand where
  args : List String
  cwd : Option String
  env : Option (List (String × String))
  deriving Repr, DecidableEq

/-- The digests of the files of a workspace, by their path. -/
abbrev Snapshot := List (String × String)

/-- What becomes of a process that is read from and waited for. -/
inductive Conversation where
  | finished (code : Int) (stdout stderr : List (List UInt8))
  | failed (exception : SandboxException)

/-- What the sandbox asks; `owner` names the call that asks. -/
inductive SandboxRequest where
  | snapshot
  | spawn (owner : String) (command : SpawnCommand)
  | converse (pid timeout : Nat)
  | killGroup (pid : Nat)
  | reap (pid : Nat)
  | stopReaders (pid : Nat)

/-- The answers to each request. -/
@[reducible] def SandboxAnswer : SandboxRequest → Type
  | .snapshot => Except SandboxException Snapshot
  | .spawn .. => Except SandboxException Nat
  | .converse .. => Conversation
  | .killGroup _ => Unit
  | .reap _ => Except SandboxException Unit
  | .stopReaders _ => Except SandboxException Unit

/-- Programs of the sandbox. -/
abbrev SandboxProgram :=
  Program SandboxRequest SandboxAnswer SandboxException

/-- The value of an answer, or its exception. -/
def sandboxHeard {Value : Type} :
    Except SandboxException Value → SandboxProgram Value
  | .ok value => .done value
  | .error exception => .raise exception

/-- `OUTPUT_LIMIT`. -/
def outputLimit : Nat :=
  256000

/-- The loop of `drain`, over the chunks that are read. -/
def drainFrom (read : List UInt8) :
    List (List UInt8) → Except SandboxException (List UInt8)
  | [] => .ok read
  | chunk :: rest =>
      if outputLimit < read.length + chunk.length then
        .error (.valueError "subprocess output limit exceeded")
      else
        drainFrom (read ++ chunk) rest

/-- `drain`. -/
def drain (chunks : List (List UInt8)) : Except SandboxException String :=
  (drainFrom [] chunks).map fun read => String.ofList (decodeReplace read)

/-- The `finally` of `run_process`. -/
def endProcess (pid : Nat) : SandboxProgram Unit :=
  .ask (.killGroup pid) fun _ =>
    .ask (.reap pid) fun reaped =>
      sandboxHeard reaped >>= fun _ =>
        .ask (.stopReaders pid) fun stopped => sandboxHeard stopped

/-- The `try` of `run_process`. -/
def converse
    (pid timeout : Nat) : SandboxProgram (Int × String × String) :=
  .ask (.converse pid timeout) fun
    | .failed exception => .raise exception
    | .finished code stdout stderr =>
        sandboxHeard (drain stdout) >>= fun out =>
          sandboxHeard (drain stderr) >>= fun err =>
            .done (code, out, err)

/-- `run_process` on POSIX. -/
def runProcess
    (owner : String)
    (command : SpawnCommand)
    (timeout : Nat) : SandboxProgram (Int × String × String) :=
  .ask (.spawn owner command) fun spawned =>
    sandboxHeard spawned >>= fun pid =>
      Program.finallyDo (endProcess pid) (converse pid timeout)

/-- `ALLOWED_TEST_COMMANDS`. -/
def allowedTestCommands : List (String × List String) :=
  [("pytest", ["python", "-m", "pytest", "-q", "--tb=short"]),
    ("pytest_fault",
      ["python", "-m", "pytest", "-q", "--tb=short", "-p",
        "no:cacheprovider", "../checks/test_fault_active.py"]),
    ("pytest_regression",
      ["python", "-m", "pytest", "-q", "--tb=short",
        "tests/test_regression.py"])]

/-- The settings the sandbox depends on. -/
structure SandboxSettings where
  environment : String
  sandboxEnabled : Bool
  sandboxNetwork : String
  sandboxImage : String
  deriving Repr, DecidableEq

/-- `settings.environment not in {"development", "test"}`. -/
def SandboxSettings.isProtected (settings : SandboxSettings) : Bool :=
  !(["development", "test"].contains settings.environment)

/--
A call of `run_tests_async`: its arguments, the workspace of its run if there is
one, whether the fault oracle is in it, the `uuid4` it draws, and the process
that calls.
-/
structure TestCall where
  runId : String
  profile : String
  timeout : Nat
  root : Option String
  hasOracle : Bool
  uuid : String
  executable : String
  environ : List (String × String)

/-- `SandboxResult`, but for its duration. -/
structure SandboxResult where
  ok : Bool
  exitCode : Int
  stdout : String
  stderr : String
  command : List String
  mode : String
  deriving Repr, DecidableEq

/-- The names of the variables that a local test inherits. -/
def inheritedVariables : List String :=
  ["PATH", "SYSTEMROOT", "SYSTEMDRIVE", "WINDIR", "TEMP", "TMP"]

namespace TestCall

/-- The name of the container. -/
def container (call : TestCall) : String :=
  "ip-sandbox-" ++ call.uuid

/-- The options of `docker run`, before its image. -/
def dockerOptions (call : TestCall) (root : String) : List String :=
  ["docker", "run", "--rm", "--name", call.container, "--label",
      "incidentpilot.run_id=" ++ call.runId, "--network", "none",
      "--user", "65534:65534", "--cap-drop", "ALL", "--security-opt",
      "no-new-privileges", "--memory", "512m", "--cpus", "1.0",
      "--pids-limit", "128", "--read-only", "--tmpfs",
      "/tmp:rw,nosuid,nodev,size=128m", "-e",
      "PYTHONDONTWRITEBYTECODE=1", "-e",
      "PYTEST_ADDOPTS=-p no:cacheprovider", "-e",
      "PYTHONPATH=/workspace"] ++
    (if call.profile = "pytest_fault" then
      ["-v", root ++ "/checks:/checks:ro"]
    else
      []) ++
    ["-v", root ++ "/repo:/workspace:ro", "-w", "/workspace"]

/-- The command that runs a test in a container. -/
def isolated
    (call : TestCall)
    (settings : SandboxSettings)
    (root : String)
    (test : List String) : SpawnCommand where
  args := call.dockerOptions root ++ settings.sandboxImage :: test
  cwd := some (root ++ "/repo")
  env := none

/-- The environment of a local test; `upper` is `str.upper`. -/
def localEnvironment
    (upper : String → String)
    (call : TestCall)
    (root : String) : List (String × String) :=
  call.environ.filter
      (fun entry => inheritedVariables.contains (upper entry.1)) ++
    [("PYTHONPATH", root ++ "/repo"), ("PYTHONDONTWRITEBYTECODE", "1"),
      ("PYTEST_ADDOPTS", "-p no:cacheprovider")]

/-- The command that runs a test without a container. -/
def unisolated
    (upper : String → String)
    (call : TestCall)
    (root : String)
    (test : List String) : SpawnCommand where
  args := call.executable :: test.drop 1
  cwd := some (root ++ "/repo")
  env := some (call.localEnvironment upper root)

/-- `["docker", "rm", "-f", container]`. -/
def removal (call : TestCall) : SpawnCommand where
  args := ["docker", "rm", "-f", call.container]
  cwd := none
  env := none

/-- The command of a test, and what it is run as. -/
def command
    (upper : String → String)
    (call : TestCall)
    (settings : SandboxSettings)
    (root : String)
    (test : List String) : SpawnCommand :=
  if settings.sandboxEnabled = true then
    call.isolated settings root test
  else
    call.unisolated upper root test

/-- The checks of `run_tests_async`, with the workspace and the test command. -/
def checked
    (call : TestCall)
    (settings : SandboxSettings) :
    Except SandboxException (String × List String) :=
  match allowedTestCommands.lookup call.profile with
  | none =>
      .error
        (.valueError ("test profile not allowlisted: " ++ call.profile))
  | some test =>
      match call.root with
      | none => .error (.runtimeError "workspace not created")
      | some root =>
          if call.profile = "pytest_fault" ∧ call.hasOracle = false then
            .error (.valueError "fault-active test oracle is missing")
          else if settings.isProtected = true ∧
              settings.sandboxEnabled = false then
            .error
              (.runtimeError
                "protected environment requires Docker sandbox")
          else if settings.sandboxEnabled = true ∧
              settings.sandboxNetwork ≠ "none" then
            .error (.valueError "sandbox network must be none")
          else
            .ok (root, test)

/-- The `try` of `run_tests_async`. -/
def attempt
    (upper : String → String)
    (call : TestCall)
    (settings : SandboxSettings)
    (root : String)
    (test : List String)
    (beforeTests : Snapshot) : SandboxProgram SandboxResult :=
  let command := call.command upper settings root test
  runProcess call.container command call.timeout >>= fun ran =>
    .ask .snapshot fun taken =>
      sandboxHeard taken >>= fun afterTests =>
        if afterTests ≠ beforeTests then
          .raise
            (.valueError
              "test execution changed approved workspace content")
        else
          .done
            { ok := decide (ran.1 = 0)
              exitCode := ran.1
              stdout := ran.2.1
              stderr := ran.2.2
              command := command.args
              mode :=
                if settings.sandboxEnabled = true then
                  "docker"
                else
                  "local" }

/-- The `finally` of `run_tests_async`. -/
def cleanUp
    (call : TestCall)
    (settings : SandboxSettings) : SandboxProgram Unit :=
  if settings.sandboxEnabled = true then
    runProcess call.container call.removal 15 >>= fun _ => .done ()
  else
    .done ()

/-- `run_tests_async`. -/
def runTestsAsync
    (upper : String → String)
    (call : TestCall)
    (settings : SandboxSettings) : SandboxProgram SandboxResult :=
  sandboxHeard (call.checked settings) >>= fun planned =>
    .ask .snapshot fun taken =>
      sandboxHeard taken >>= fun beforeTests =>
        Program.finallyDo (call.cleanUp settings)
          (call.attempt upper settings planned.1 planned.2 beforeTests)

end TestCall

end IncidentPilot
