import IncidentPilot.SandboxProcess

/-!
# What tests leave behind

The machine the tests run on, with every other process on it.  A container may
run from the moment its client was started, whether or not the client still
lives, until it has ended or is removed.  `create_subprocess_exec` may raise
after it has started a process, which the call then knows nothing of.  The
history records these abandoned processes, the snapshots and the exits a call was
told, and whether its removal of the container failed.
-/

namespace IncidentPilot

/-- A process group, the call that started it, and its command. -/
structure ProcessGroup where
  owner : String
  args : List String
  deriving Repr, DecidableEq

/-- The machine, with the containers that may run, and what a call was told. -/
structure SandboxWorld where
  groups : Nat → Option ProcessGroup
  abandoned : List Nat
  containers : String → Bool
  snapshots : List Snapshot
  exits : List (List String × Int)
  unremoved : Bool

/-- The command runs a container of this name. -/
def StartsContainer (name : String) (args : List String) : Prop :=
  ["docker", "run", "--rm", "--name", name] <+: args

instance (name : String) (args : List String) :
    Decidable (StartsContainer name args) :=
  inferInstanceAs (Decidable (_ <+: args))

/-- The command removes a container of this name. -/
def RemovesContainer (name : String) (args : List String) : Prop :=
  args = ["docker", "rm", "-f", name]

instance (name : String) (args : List String) :
    Decidable (RemovesContainer name args) :=
  inferInstanceAs (Decidable (args = _))

/-- The machine once a client may have started its container. -/
def SandboxWorld.launched
    (world : SandboxWorld)
    (container : String)
    (args : List String) : SandboxWorld :=
  { world with
    containers :=
      if StartsContainer container args then
        Function.update world.containers container true
      else
        world.containers }

/-- The machine once a command has come to its end. -/
def SandboxWorld.exited
    (world : SandboxWorld)
    (container : String)
    (args : List String)
    (code : Int) : SandboxWorld :=
  { world with
    exits := (args, code) :: world.exits
    containers :=
      if RemovesContainer container args ∧ code = 0 then
        Function.update world.containers container false
      else
        world.containers
    unremoved :=
      world.unremoved ||
        decide (RemovesContainer container args ∧ code ≠ 0) }

/-- The machine once a command was cut short. -/
def SandboxWorld.cut
    (world : SandboxWorld)
    (container : String)
    (args : List String) : SandboxWorld :=
  { world with
    unremoved :=
      world.unremoved || decide (RemovesContainer container args) }

/-- Both outputs of a process are within their limit. -/
def Drained (stdout stderr : List (List UInt8)) : Bool :=
  (drain stdout).isOk && (drain stderr).isOk

/--
How the machine serves the call with this container.  `docker rm -f` that
succeeds leaves no container of the name; a process that is not drained is not
waited for; a client that was started and lost at once may still have started
its container.  Of a process that was started by a failing request asyncio kills
the leader, but not its children.
-/
inductive ServesSandbox (container : String) :
    SandboxWorld → (asked : SandboxRequest) → SandboxAnswer asked →
      SandboxWorld → Prop where
  | snapshot
      (world : SandboxWorld)
      (taken : Snapshot) :
      ServesSandbox container world .snapshot (.ok taken)
        { world with snapshots := taken :: world.snapshots }
  | snapshotFails
      (world : SandboxWorld)
      (exception : SandboxException) :
      ServesSandbox container world .snapshot (.error exception) world
  | spawn
      {world : SandboxWorld}
      {pid : Nat}
      (owner : String)
      (command : SpawnCommand)
      (free : world.groups pid = none) :
      ServesSandbox container world (.spawn owner command) (.ok pid)
        { world.launched container command.args with
          groups :=
            Function.update world.groups pid
              (some ⟨owner, command.args⟩) }
  | spawnFails
      (world : SandboxWorld)
      (owner : String)
      (command : SpawnCommand)
      (exception : SandboxException) :
      ServesSandbox container world (.spawn owner command)
        (.error exception)
        ((world.launched container command.args).cut container
          command.args)
  | spawnAbandons
      {world : SandboxWorld}
      {pid : Nat}
      (owner : String)
      (command : SpawnCommand)
      (exception : SandboxException)
      (free : world.groups pid = none) :
      ServesSandbox container world (.spawn owner command)
        (.error exception)
        { (world.launched container command.args).cut container
            command.args with
          groups :=
            Function.update world.groups pid
              (some ⟨owner, command.args⟩)
          abandoned := pid :: world.abandoned }
  | finished
      {world : SandboxWorld}
      {pid : Nat}
      {group : ProcessGroup}
      (timeout : Nat)
      (code : Int)
      (stdout stderr : List (List UInt8))
      (runs : world.groups pid = some group) :
      ServesSandbox container world (.converse pid timeout)
        (.finished code stdout stderr)
        (if Drained stdout stderr = true then
          world.exited container group.args code
        else
          world.cut container group.args)
  | failed
      {world : SandboxWorld}
      {pid : Nat}
      {group : ProcessGroup}
      (timeout : Nat)
      (exception : SandboxException)
      (runs : world.groups pid = some group) :
      ServesSandbox container world (.converse pid timeout)
        (.failed exception) (world.cut container group.args)
  | killGroup
      (world : SandboxWorld)
      (pid : Nat) :
      ServesSandbox container world (.killGroup pid) ()
        { world with groups := Function.update world.groups pid none }
  | reap
      (world : SandboxWorld)
      (pid : Nat)
      (answer : Except SandboxException Unit) :
      ServesSandbox container world (.reap pid) answer world
  | stopReaders
      (world : SandboxWorld)
      (pid : Nat)
      (answer : Except SandboxException Unit) :
      ServesSandbox container world (.stopReaders pid) answer world

/--
What may change while a call waits: others start and end groups of their own,
and its container, whose name nobody else has, starts while its client runs, or
ends.  A group stays in the table until it is killed, since its leader may leave
children behind.
-/
structure SandboxDrift
    (container : String)
    (before after : SandboxWorld) : Prop where
  kept :
    ∀ pid group,
      before.groups pid = some group →
      group.owner = container →
      after.groups pid = some group
  others :
    ∀ pid group,
      after.groups pid = some group →
      group.owner = container →
      before.groups pid = some group
  started :
    after.containers container = true →
      before.containers container = true ∨
        ∃ pid group,
          before.groups pid = some group ∧
            group.owner = container ∧
            StartsContainer container group.args
  abandoned : after.abandoned = before.abandoned
  snapshots : after.snapshots = before.snapshots
  exits : after.exits = before.exits
  unremoved : after.unremoved = before.unremoved

/-- The machine as the call with this container finds it. -/
def sandboxSurroundings (container : String) :
    Program.Surroundings SandboxWorld SandboxRequest SandboxAnswer where
  serves := ServesSandbox container
  interferes := SandboxDrift container

/-- No process group of the call is alive, but for the abandoned ones. -/
def SandboxWorld.Calm (container : String) (world : SandboxWorld) : Prop :=
  ∀ pid group,
    world.groups pid = some group →
    group.owner = container →
    pid ∈ world.abandoned

/-- One more process group of the call is alive, and runs a command. -/
structure SandboxWorld.Runs
    (container : String)
    (pid : Nat)
    (args : List String)
    (world : SandboxWorld) : Prop where
  group : world.groups pid = some ⟨container, args⟩
  only :
    ∀ other group,
      world.groups other = some group →
      group.owner = container →
      other = pid ∨ other ∈ world.abandoned

/--
What is kept from the start of a process to its end.  An abandoned client may
start its container at any time.
-/
structure SandboxWorld.Follows
    (container : String)
    (args : List String)
    (start world : SandboxWorld) : Prop where
  snapshots : world.snapshots = start.snapshots
  exits : ∀ exit ∈ start.exits, exit ∈ world.exits
  unremoved : start.unremoved = true → world.unremoved = true
  abandoned : world.abandoned = [] → start.abandoned = []
  quiet :
    world.abandoned = [] →
    ¬ StartsContainer container args →
    start.containers container = false →
    world.containers container = false

/-- What is known once a removal has run, however it went. -/
def SandboxWorld.Removed
    (container : String)
    (args : List String)
    (world : SandboxWorld) : Prop :=
  world.abandoned = [] →
    RemovesContainer container args →
    world.containers container = false ∨ world.unremoved = true

/-- Where no process was abandoned, all of the call run one command. -/
def SandboxWorld.Client
    (container : String)
    (args : List String)
    (world : SandboxWorld) : Prop :=
  world.abandoned = [] →
    ∀ pid group,
      world.groups pid = some group →
      group.owner = container →
      group.args = args

/-- Where no process was abandoned, a calm call has none. -/
theorem SandboxWorld.Calm.client
    {container : String}
    {args : List String}
    {world : SandboxWorld}
    (calm : world.Calm container) :
    world.Client container args := by
  intro alone pid group found owned
  have member := calm pid group found owned
  rw [alone] at member
  cases member

/-- A removal starts no container. -/
theorem RemovesContainer.starts_none
    {container name : String}
    {args : List String}
    (removes : RemovesContainer container args) :
    ¬ StartsContainer name args := by
  rintro ⟨rest, starts⟩
  unfold RemovesContainer at removes
  rw [removes] at starts
  simp at starts

/-- A command that starts no container leaves those that run as they are. -/
theorem SandboxWorld.launched_of_not
    {container : String}
    {args : List String}
    (world : SandboxWorld)
    (starts : ¬ StartsContainer container args) :
    world.launched container args = world := by
  unfold SandboxWorld.launched
  rw [if_neg starts]

namespace SandboxDrift

variable {container : String} {before after : SandboxWorld}

/-- Nothing may change. -/
theorem refl (container : String) (world : SandboxWorld) :
    SandboxDrift container world world where
  kept _ _ found _ := found
  others _ _ found _ := found
  started running := .inl running
  abandoned := rfl
  snapshots := rfl
  exits := rfl
  unremoved := rfl

/-- A call without process groups does not get one. -/
theorem calm
    (drift : SandboxDrift container before after)
    (calm : before.Calm container) :
    after.Calm container := by
  intro pid group found owned
  rw [drift.abandoned]
  exact calm pid group (drift.others pid group found owned) owned

/-- The process group of a call stays. -/
theorem runs
    {pid : Nat}
    {args : List String}
    (drift : SandboxDrift container before after)
    (runs : before.Runs container pid args) :
    after.Runs container pid args where
  group := drift.kept pid _ runs.group rfl
  only other group found owned := by
    rw [drift.abandoned]
    exact runs.only other group (drift.others other group found owned) owned

/-- No container starts unless its client runs. -/
theorem quiet
    (drift : SandboxDrift container before after)
    (noClient :
      ∀ pid group,
        before.groups pid = some group →
        group.owner = container →
        ¬ StartsContainer container group.args)
    (gone : before.containers container = false) :
    after.containers container = false := by
  by_contra runs
  rcases drift.started (eq_true_of_ne_false runs) with
    already | ⟨pid, group, found, owned, starts⟩
  · rw [gone] at already
    cases already
  · exact noClient pid group found owned starts

/-- What follows the start of a process goes on doing so. -/
theorem follows
    {args : List String}
    {start : SandboxWorld}
    (drift : SandboxDrift container before after)
    (client : before.Client container args)
    (follows : start.Follows container args before) :
    start.Follows container args after := by
  refine ⟨?_, ?_, ?_, ?_, ?_⟩
  · rw [drift.snapshots]
    exact follows.snapshots
  · rw [drift.exits]
    exact follows.exits
  · rw [drift.unremoved]
    exact follows.unremoved
  · rw [drift.abandoned]
    exact follows.abandoned
  · intro alone starts gone
    rw [drift.abandoned] at alone
    refine drift.quiet ?_ (follows.quiet alone starts gone)
    intro pid group found owned
    rw [client alone pid group found owned]
    exact starts

/-- What was removed stays removed. -/
theorem removed
    {args : List String}
    (drift : SandboxDrift container before after)
    (client : before.Client container args)
    (removed : before.Removed container args) :
    after.Removed container args := by
  intro alone removes
  rw [drift.abandoned] at alone
  rcases removed alone removes with gone | failed
  · refine .inl (drift.quiet ?_ gone)
    intro pid group found owned
    rw [client alone pid group found owned]
    exact removes.starts_none
  · rw [drift.unremoved]
    exact .inr failed

end SandboxDrift

/-- What is known of a process that has been ended. -/
structure SandboxWorld.Ended
    (container : String)
    (args : List String)
    (code : Option Int)
    (start world : SandboxWorld) : Prop where
  calm : world.Calm container
  follows : start.Follows container args world
  removed : world.Removed container args
  exited : ∀ exit ∈ code, (args, exit) ∈ world.exits

/-- Once its process has ended, nothing happens to a call. -/
theorem SandboxDrift.ended
    {container : String}
    {args : List String}
    {code : Option Int}
    {start before after : SandboxWorld}
    (drift : SandboxDrift container before after)
    (ended : start.Ended container args code before) :
    start.Ended container args code after := by
  have client : before.Client container args := ended.calm.client
  refine
    ⟨drift.calm ended.calm, drift.follows client ended.follows,
      drift.removed client ended.removed, ?_⟩
  rw [drift.exits]
  exact ended.exited

section Process

variable {container : String} {args : List String} {code : Option Int}
variable {start world : SandboxWorld}

/-- The process group of a call is the client of whatever it starts. -/
theorem SandboxWorld.Runs.client
    {pid : Nat}
    (runs : world.Runs container pid args) :
    world.Client container args := by
  intro alone other group found owned
  rcases runs.only other group found owned with same | member
  · subst same
    rw [runs.group] at found
    cases found
    rfl
  · rw [alone] at member
    cases member

/-- A call whose process group was killed is calm. -/
theorem SandboxWorld.Runs.killed
    {pid : Nat}
    (runs : world.Runs container pid args) :
    ({ world with groups := Function.update world.groups pid none } :
      SandboxWorld).Calm container := by
  intro other group found owned
  by_cases same : other = pid
  · subst same
    simp at found
  · have before : world.groups other = some group := by
      simpa [Function.update_of_ne same] using found
    exact (runs.only other group before owned).resolve_left same

/-- Waiting for a process that was killed changes nothing. -/
theorem waited_keeps
    {request : SandboxRequest}
    {heard : SandboxAnswer request → SandboxProgram Unit}
    (waits :
      (∃ pid, request = .reap pid) ∨ ∃ pid, request = .stopReaders pid)
    (goesOn :
      ∀ answer world,
        start.Ended container args code world →
        (heard answer).Keeps (sandboxSurroundings container)
          (fun _ _ => True) world
          (fun _ final => start.Ended container args code final)
          (fun _ final => start.Ended container args code final))
    (ended : start.Ended container args code world) :
    (Program.ask request heard).Keeps (sandboxSurroundings container)
      (fun _ _ => True) world
      (fun _ final => start.Ended container args code final)
      (fun _ final => start.Ended container args code final) := by
  refine Program.Keeps.ask ?_
  intro disturbed drift
  have still := drift.ended ended
  rcases waits with ⟨pid, rfl⟩ | ⟨pid, rfl⟩
  · refine ⟨trivial, ?_⟩
    intro answer served serves
    cases serves
    exact goesOn answer _ still
  · refine ⟨trivial, ?_⟩
    intro answer served serves
    cases serves
    exact goesOn answer _ still

/-- What is heard at the end is passed on. -/
theorem sandboxHeard_keeps
    (answer : Except SandboxException Unit)
    (ended : start.Ended container args code world) :
    (sandboxHeard answer).Keeps (sandboxSurroundings container)
      (fun _ _ => True) world
      (fun _ final => start.Ended container args code final)
      (fun _ final => start.Ended container args code final) := by
  cases answer with
  | ok value => exact .done ended
  | error exception => exact .raise ended

/-- The `finally` of `run_process` leaves no process behind. -/
theorem endProcess_keeps
    {pid : Nat}
    (runs : world.Runs container pid args)
    (follows : start.Follows container args world)
    (removed : world.Removed container args)
    (exited : ∀ exit ∈ code, (args, exit) ∈ world.exits) :
    (endProcess pid).Keeps (sandboxSurroundings container)
      (fun _ _ => True) world
      (fun _ final => start.Ended container args code final)
      (fun _ final => start.Ended container args code final) := by
  refine Program.Keeps.ask ?_
  intro disturbed drift
  refine ⟨trivial, ?_⟩
  intro answer killed serves
  cases serves
  have still := drift.runs runs
  have stillFollows := drift.follows runs.client follows
  have ended :
      start.Ended container args code
        { disturbed with
          groups := Function.update disturbed.groups pid none } :=
    { calm := still.killed
      follows :=
        ⟨stillFollows.snapshots, stillFollows.exits,
          stillFollows.unremoved, stillFollows.abandoned,
          stillFollows.quiet⟩
      removed := drift.removed runs.client removed
      exited := by
        intro exit isExit
        change (args, exit) ∈ disturbed.exits
        rw [drift.exits]
        exact exited exit isExit }
  refine waited_keeps (.inl ⟨pid, rfl⟩) ?_ ended
  intro reaped middle middleEnded
  apply Program.Keeps.bind
  refine
    (sandboxHeard_keeps reaped middleEnded).mono
      (fun _ _ permitted => permitted) ?_ (fun _ _ holds => holds)
  intro _ later laterEnded
  refine waited_keeps (.inr ⟨pid, rfl⟩) ?_ laterEnded
  intro stopped last lastEnded
  exact sandboxHeard_keeps stopped lastEnded

/-- What is known of a process that was waited for. -/
structure SandboxWorld.Waited
    (container : String)
    (pid : Nat)
    (args : List String)
    (code : Option Int)
    (start world : SandboxWorld) : Prop where
  runs : world.Runs container pid args
  follows : start.Follows container args world
  removed : world.Removed container args
  exited : ∀ exit ∈ code, (args, exit) ∈ world.exits

/-- A command that was cut short may have removed nothing. -/
theorem SandboxWorld.Waited.cut
    {pid : Nat}
    (runs : world.Runs container pid args)
    (follows : start.Follows container args world) :
    start.Waited container pid args none (world.cut container args) where
  runs := ⟨runs.group, runs.only⟩
  follows :=
    ⟨follows.snapshots, follows.exits,
      fun failed => by
        simp [SandboxWorld.cut, follows.unremoved failed],
      follows.abandoned, follows.quiet⟩
  removed _ removes := .inr (by simp [SandboxWorld.cut, removes])
  exited := by simp

/-- A removal that succeeded has removed its container. -/
theorem SandboxWorld.Waited.ended
    {pid : Nat}
    (exit : Int)
    (runs : world.Runs container pid args)
    (follows : start.Follows container args world) :
    start.Waited container pid args (some exit)
      (world.exited container args exit) where
  runs := ⟨runs.group, runs.only⟩
  follows :=
    { snapshots := follows.snapshots
      exits := fun earlier member =>
        List.mem_cons_of_mem _ (follows.exits earlier member)
      unremoved := fun failed => by
        simp [SandboxWorld.exited, follows.unremoved failed]
      abandoned := follows.abandoned
      quiet := by
        intro alone starts gone
        have still := follows.quiet alone starts gone
        by_cases removes : RemovesContainer container args ∧ exit = 0
        · simp [SandboxWorld.exited, removes]
        · simp [SandboxWorld.exited, removes, still] }
  removed _ removes := by
    by_cases succeeded : exit = 0
    · exact .inl (by simp [SandboxWorld.exited, removes, succeeded])
    · exact .inr (by simp [SandboxWorld.exited, removes, succeeded])
  exited := by simp [SandboxWorld.exited]

/-- What `run_process` is told of its process is what became of it. -/
theorem converse_keeps
    {pid : Nat}
    (timeout : Nat)
    (runs : world.Runs container pid args)
    (follows : start.Follows container args world) :
    (converse pid timeout).Keeps (sandboxSurroundings container)
      (fun _ _ => True) world
      (fun ran final =>
        start.Waited container pid args (some ran.1) final)
      (fun _ final =>
        ∃ code, start.Waited container pid args code final) := by
  refine Program.Keeps.ask ?_
  intro disturbed drift
  refine ⟨trivial, ?_⟩
  intro answer served serves
  have still := drift.runs runs
  have stillFollows := drift.follows runs.client follows
  cases serves with
  | failed timeout exception found =>
      rw [still.group] at found
      cases found
      exact .raise ⟨none, .cut still stillFollows⟩
  | finished timeout code stdout stderr found =>
      rw [still.group] at found
      cases found
      have waited :
          ∃ told,
            start.Waited container pid args told
              (if Drained stdout stderr = true then
                disturbed.exited container args code
              else
                disturbed.cut container args) := by
        by_cases drained : Drained stdout stderr = true
        · rw [if_pos drained]
          exact ⟨some code, .ended code still stillFollows⟩
        · rw [if_neg drained]
          exact ⟨none, .cut still stillFollows⟩
      change
        (sandboxHeard (drain stdout) >>= fun out =>
          sandboxHeard (drain stderr) >>= fun err =>
            Program.done (code, out, err)).Keeps _ _ _ _ _
      cases drainedOut : drain stdout with
      | error exception =>
          exact Program.Keeps.raise waited
      | ok out =>
          cases drainedErr : drain stderr with
          | error exception =>
              exact Program.Keeps.raise waited
          | ok err =>
              have drained : Drained stdout stderr = true := by
                simp [Drained, drainedOut, drainedErr, Except.isOk,
                  Except.toBool]
              rw [if_pos drained]
              exact
                Program.Keeps.done
                  (SandboxWorld.Waited.ended code still stillFollows)

/-- What is kept is kept by a command that may start its container. -/
theorem SandboxWorld.Follows.launched
    (follows : start.Follows container args world) :
    start.Follows container args (world.launched container args) where
  snapshots := follows.snapshots
  exits := follows.exits
  unremoved := follows.unremoved
  abandoned := follows.abandoned
  quiet := by
    intro alone starts gone
    rw [world.launched_of_not starts]
    exact follows.quiet alone starts gone

/-- A process that was started is the only one of its call. -/
theorem SandboxWorld.Calm.spawned
    (calm : world.Calm container)
    (pid : Nat)
    (args : List String) :
    ({ world.launched container args with
        groups :=
          Function.update world.groups pid (some ⟨container, args⟩) } :
      SandboxWorld).Runs container pid args := by
  refine ⟨by simp, ?_⟩
  intro other group found owned
  by_cases same : other = pid
  · exact .inl same
  · have before : world.groups other = some group := by
      simpa [Function.update_of_ne same] using found
    exact .inr (calm other group before owned)

/-- A process that a call abandons is the only one it knows nothing of. -/
theorem SandboxWorld.Calm.abandons
    (calm : world.Calm container)
    (pid : Nat)
    (args : List String) :
    ({ (world.launched container args).cut container args with
        groups :=
          Function.update world.groups pid (some ⟨container, args⟩)
        abandoned := pid :: world.abandoned } :
      SandboxWorld).Calm container := by
  intro other group found owned
  by_cases same : other = pid
  · exact List.mem_cons.mpr (.inl same)
  · have before : world.groups other = some group := by
      simpa [Function.update_of_ne same] using found
    exact List.mem_cons_of_mem _ (calm other group before owned)

/--
`run_process` leaves no process behind, whether it returns or raises, unless it is
abandoned, and what it returns is the exit of its command.
-/
theorem runProcess_keeps
    {command : SpawnCommand}
    (timeout : Nat)
    (calm : start.Calm container) :
    (runProcess container command timeout).Keeps
      (sandboxSurroundings container) (fun _ _ => True) start
      (fun ran final =>
        start.Ended container command.args (some ran.1) final)
      (fun _ final =>
        ∃ code, start.Ended container command.args code final) := by
  refine Program.Keeps.ask ?_
  intro disturbed drift
  refine ⟨trivial, ?_⟩
  intro answer served serves
  have stillCalm := drift.calm calm
  have follows : start.Follows container command.args disturbed :=
    drift.follows calm.client
      ⟨rfl, fun _ member => member, id, id, fun _ _ gone => gone⟩
  have launched := follows.launched
  cases serves with
  | spawnFails owner command exception =>
      refine Program.Keeps.raise ⟨none, ?_⟩
      exact
        { calm := stillCalm
          follows :=
            ⟨launched.snapshots, launched.exits,
              fun failed => by
                simp [SandboxWorld.cut, launched.unremoved failed],
              launched.abandoned, launched.quiet⟩
          removed := fun _ removes =>
            .inr (by simp [SandboxWorld.cut, removes])
          exited := by simp }
  | @spawnAbandons pid owner command exception free =>
      refine Program.Keeps.raise ⟨none, ?_⟩
      exact
        { calm := stillCalm.abandons pid command.args
          follows :=
            ⟨launched.snapshots, launched.exits,
              fun failed => by
                simp [SandboxWorld.cut, launched.unremoved failed],
              fun alone => absurd alone (List.cons_ne_nil _ _),
              fun alone => absurd alone (List.cons_ne_nil _ _)⟩
          removed := fun alone => absurd alone (List.cons_ne_nil _ _)
          exited := by simp }
  | @spawn pid owner command free =>
      have runs := stillCalm.spawned pid command.args
      have spawned :
          start.Follows container command.args
            { disturbed.launched container command.args with
              groups :=
                Function.update disturbed.groups pid
                  (some ⟨container, command.args⟩) } :=
        ⟨launched.snapshots, launched.exits, launched.unremoved,
          launched.abandoned, launched.quiet⟩
      apply Program.Keeps.finallyDo
      refine
        (converse_keeps timeout runs spawned).mono
          (fun _ _ permitted => permitted) ?_ ?_
      · intro ran middle waited
        refine
          (endProcess_keeps waited.runs waited.follows waited.removed
            waited.exited).mono
            (fun _ _ permitted => permitted) (fun _ _ ended => ended) ?_
        intro exception final ended
        exact ⟨_, ended⟩
      · rintro exception middle ⟨code, waited⟩
        refine
          (endProcess_keeps waited.runs waited.follows waited.removed
            waited.exited).mono
            (fun _ _ permitted => permitted) ?_ ?_
        · intro _ final ended
          exact ⟨code, ended⟩
        · intro _ final ended
          exact ⟨code, ended⟩

end Process

end IncidentPilot
