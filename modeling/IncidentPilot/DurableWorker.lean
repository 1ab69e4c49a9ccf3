import IncidentPilot.WorkerTask
import Mathlib.Data.List.Perm.Subperm

/-!
# The durable worker

`DurableWorker.run`: a loop that hands claims to tasks of their own, as many at
a time as `worker_concurrency` says, until it is asked to stop; then it cancels
them and waits for them.  The database answers what it likes, or not at all, and
the tasks go on in any order.
-/

namespace IncidentPilot

/-- Where the loop of `run` stands. -/
inductive LoopPoint where
  | top
  | expiring
  | claiming
  | waiting
  | sleeping
  | draining
  | ended
  deriving Repr, DecidableEq

/-- A worker: `_stopping`, `_active`, and every task it has created. -/
structure DurableWorker where
  stopping : Bool
  point : LoopPoint
  active : List Nat
  tasks : List ClaimTask
  deriving Repr, DecidableEq

namespace DurableWorker

/-- `DurableWorker()`, before `run`. -/
def create : DurableWorker where
  stopping := false
  point := .top
  active := []
  tasks := []

/-- `task.done()`. -/
def done (worker : DurableWorker) (index : Nat) : Bool :=
  worker.tasks[index]?.all fun task => !task.alive

/-- `self._active`, without the tasks that are done. -/
def undone (worker : DurableWorker) : List Nat :=
  worker.active.filter fun index => !worker.done index

/-- The worker waits for a task, or for the next poll. -/
def rest (worker : DurableWorker) : DurableWorker :=
  { worker with
    point := if worker.active = [] then .sleeping else .waiting }

/-- The condition of the inner `while`. -/
def poll (workerConcurrency : Nat) (worker : DurableWorker) : DurableWorker :=
  if worker.active.length < workerConcurrency ∧
      worker.stopping = false then
    { worker with point := .claiming }
  else
    worker.rest

/-- `asyncio.create_task(self._execute_claim(claim))`, which is then active. -/
def execute (worker : DurableWorker) (claim : ClaimedRun) : DurableWorker :=
  { worker with
    active := worker.tasks.length :: worker.active
    tasks := worker.tasks ++ [.start claim] }

/-- The condition of the outer `while`. -/
def turn (worker : DurableWorker) : DurableWorker :=
  if worker.stopping = false then
    { worker with
      active := worker.undone
      point := .expiring }
  else
    { worker with
      point := if worker.active = [] then .ended else .draining }

/-- One of the tasks has gone on. -/
def follow
    (worker : DurableWorker)
    (index : Nat)
    (task : ClaimTask) : DurableWorker :=
  { worker with tasks := worker.tasks.set index task }

end DurableWorker

/-- What may happen to a worker. -/
inductive WorkerAction where
  | requestStop
  | turn
  | expires (succeeded : Bool)
  | claims (claim : Option ClaimedRun)
  | claimFails
  | wakes
  | drained
  | task (index : Nat) (event : TaskEvent)

/-- One step of a worker; only a worker that drains cancels its tasks. -/
inductive WorkerStep (workerConcurrency : Nat) :
    DurableWorker → WorkerAction → DurableWorker → Prop where
  | requestStop (worker : DurableWorker) :
      WorkerStep workerConcurrency worker .requestStop
        { worker with stopping := true }
  | turn
      {worker : DurableWorker}
      (point : worker.point = .top) :
      WorkerStep workerConcurrency worker .turn worker.turn
  | expired
      {worker : DurableWorker}
      (point : worker.point = .expiring) :
      WorkerStep workerConcurrency worker (.expires true)
        (worker.poll workerConcurrency)
  | unexpired
      {worker : DurableWorker}
      (point : worker.point = .expiring) :
      WorkerStep workerConcurrency worker (.expires false) worker.rest
  | claimed
      {worker : DurableWorker}
      (claim : ClaimedRun)
      (point : worker.point = .claiming) :
      WorkerStep workerConcurrency worker (.claims (some claim))
        ((worker.execute claim).poll workerConcurrency)
  | unclaimed
      {worker : DurableWorker}
      (point : worker.point = .claiming) :
      WorkerStep workerConcurrency worker (.claims none) worker.rest
  | claimFails
      {worker : DurableWorker}
      (point : worker.point = .claiming) :
      WorkerStep workerConcurrency worker .claimFails worker.rest
  | waited
      {worker : DurableWorker}
      (point : worker.point = .waiting) :
      WorkerStep workerConcurrency worker .wakes
        { worker with active := worker.undone, point := .top }
  | slept
      {worker : DurableWorker}
      (point : worker.point = .sleeping) :
      WorkerStep workerConcurrency worker .wakes
        { worker with point := .top }
  | drained
      {worker : DurableWorker}
      (point : worker.point = .draining)
      (isOver : worker.undone = []) :
      WorkerStep workerConcurrency worker .drained
        { worker with point := .ended }
  | task
      {worker : DurableWorker}
      {index : Nat}
      {event : TaskEvent}
      {task after : ClaimTask}
      (found : worker.tasks[index]? = some task)
      (steps : TaskStep task event after)
      (cancels :
        event = .interrupted → worker.point = .draining) :
      WorkerStep workerConcurrency worker (.task index event)
        (worker.follow index after)

/-- A worker from its creation on. -/
def durableWorker (workerConcurrency : Nat) :
    Machine DurableWorker WorkerAction where
  initial worker := worker = .create
  step := WorkerStep workerConcurrency

namespace DurableWorker

/-- What holds of a worker between any two steps. -/
structure Sound (workerConcurrency : Nat) (worker : DurableWorker) :
    Prop where
  tasks : ∀ task ∈ worker.tasks, task.Sound
  tracked :
    ∀ (index : Nat) (task : ClaimTask),
      worker.tasks[index]? = some task →
      task.alive = true →
      index ∈ worker.active
  bounded : worker.active.length ≤ workerConcurrency
  room :
    worker.point = .claiming → worker.active.length < workerConcurrency
  ended :
    worker.point = .ended → ∀ task ∈ worker.tasks, task.alive = false

variable {workerConcurrency : Nat} {worker : DurableWorker}

/-- A task that is not done stays among those that are not done. -/
theorem mem_undone
    {index : Nat}
    {task : ClaimTask}
    (active : index ∈ worker.active)
    (found : worker.tasks[index]? = some task)
    (alive : task.alive = true) :
    index ∈ worker.undone := by
  refine List.mem_filter.mpr ⟨active, ?_⟩
  simp [done, found, alive]

/-- Forgetting tasks that are done keeps no task from being tracked. -/
theorem length_undone_le (worker : DurableWorker) :
    worker.undone.length ≤ worker.active.length :=
  List.length_filter_le _ _

/-- Where the loop goes on does not matter, unless it claims or has ended. -/
theorem Sound.elsewhere
    (sound : worker.Sound workerConcurrency)
    (stopping : Bool)
    {point : LoopPoint}
    (notClaiming : point ≠ .claiming)
    (notEnded : point ≠ .ended) :
    ({ worker with stopping := stopping, point := point } :
      DurableWorker).Sound workerConcurrency where
  tasks := sound.tasks
  tracked := sound.tracked
  bounded := sound.bounded
  room claims := absurd claims notClaiming
  ended isOver := absurd isOver notEnded

/-- A worker may forget the tasks that are done. -/
theorem Sound.forgets
    (sound : worker.Sound workerConcurrency)
    {point : LoopPoint}
    (notClaiming : point ≠ .claiming)
    (notEnded : point ≠ .ended) :
    ({ worker with active := worker.undone, point := point } :
      DurableWorker).Sound workerConcurrency where
  tasks := sound.tasks
  tracked index task found alive :=
    mem_undone (sound.tracked index task found alive) found alive
  bounded := Nat.le_trans worker.length_undone_le sound.bounded
  room claims := absurd claims notClaiming
  ended isOver := absurd isOver notEnded

/-- A worker may wait. -/
theorem Sound.rest (sound : worker.Sound workerConcurrency) :
    worker.rest.Sound workerConcurrency := by
  unfold DurableWorker.rest
  by_cases idle : worker.active = []
  · rw [if_pos idle]
    exact sound.elsewhere worker.stopping (by simp) (by simp)
  · rw [if_neg idle]
    exact sound.elsewhere worker.stopping (by simp) (by simp)

/-- A worker claims while there is room. -/
theorem Sound.poll (sound : worker.Sound workerConcurrency) :
    (worker.poll workerConcurrency).Sound workerConcurrency := by
  unfold DurableWorker.poll
  by_cases room :
      worker.active.length < workerConcurrency ∧ worker.stopping = false
  · rw [if_pos room]
    exact
      { tasks := sound.tasks
        tracked := sound.tracked
        bounded := sound.bounded
        room := fun _ => room.1
        ended := by simp }
  · rw [if_neg room]
    exact sound.rest

/-- A claim becomes a task that is active. -/
theorem Sound.execute
    (sound : worker.Sound workerConcurrency)
    (claim : ClaimedRun)
    (claims : worker.point = .claiming) :
    ({ worker.execute claim with point := .top } :
      DurableWorker).Sound workerConcurrency where
  tasks := by
    intro task member
    rcases List.mem_append.mp member with earlier | new
    · exact sound.tasks task earlier
    · rw [List.mem_singleton.mp new]
      exact ClaimTask.start_sound claim
  tracked := by
    intro index task found alive
    by_cases earlier : index < worker.tasks.length
    · have sameTask : worker.tasks[index]? = some task := by
        simpa [DurableWorker.execute, List.getElem?_append_left earlier]
          using found
      exact
        List.mem_cons_of_mem _ (sound.tracked index task sameTask alive)
    · have within := (List.getElem?_eq_some_iff.mp found).1
      simp only [DurableWorker.execute, List.length_append,
        List.length_singleton] at within
      have last : index = worker.tasks.length := by omega
      rw [last]
      exact List.mem_cons_self
  bounded := sound.room claims
  room := by simp
  ended := by simp

/-- Polling does not depend on where the loop stands. -/
theorem poll_from_top (worker : DurableWorker) :
    ({ worker with point := .top } : DurableWorker).poll
        workerConcurrency =
      worker.poll workerConcurrency :=
  rfl

/-- A worker that has nothing to wait for has no task that is alive. -/
theorem Sound.isOver
    (sound : worker.Sound workerConcurrency)
    (idle : worker.undone = []) :
    ∀ task ∈ worker.tasks, task.alive = false := by
  intro task member
  by_contra goesOn
  have alive : task.alive = true := by simpa using goesOn
  obtain ⟨index, found⟩ := List.mem_iff_getElem?.mp member
  have waits := mem_undone (sound.tracked index task found alive) found alive
  rw [idle] at waits
  cases waits

/-- A turn of the loop keeps a worker sound. -/
theorem Sound.turn (sound : worker.Sound workerConcurrency) :
    worker.turn.Sound workerConcurrency := by
  unfold DurableWorker.turn
  by_cases goesOn : worker.stopping = false
  · rw [if_pos goesOn]
    exact sound.forgets (by simp) (by simp)
  · rw [if_neg goesOn]
    by_cases idle : worker.active = []
    · rw [if_pos idle]
      exact
        { tasks := sound.tasks
          tracked := sound.tracked
          bounded := sound.bounded
          room := by simp
          ended := fun _ => sound.isOver (by simp [undone, idle]) }
    · rw [if_neg idle]
      exact sound.elsewhere worker.stopping (by simp) (by simp)

/-- A step of a task keeps the worker sound. -/
theorem Sound.follow
    {index : Nat}
    {event : TaskEvent}
    {task after : ClaimTask}
    (sound : worker.Sound workerConcurrency)
    (found : worker.tasks[index]? = some task)
    (steps : TaskStep task event after) :
    (worker.follow index after).Sound workerConcurrency := by
  have taskSound := sound.tasks task (List.mem_of_getElem? found)
  have wasAlive := taskSound.alive_of_step steps
  refine
    { tasks := ?_
      tracked := ?_
      bounded := sound.bounded
      room := sound.room
      ended := ?_ }
  · intro other member
    rcases List.mem_or_eq_of_mem_set member with earlier | rfl
    · exact sound.tasks other earlier
    · exact taskSound.step steps
  · intro otherIndex other otherFound alive
    by_cases same : index = otherIndex
    · subst same
      exact sound.tracked index task found wasAlive
    · simp only [DurableWorker.follow,
        List.getElem?_set_ne same] at otherFound
      exact sound.tracked otherIndex other otherFound alive
  · intro isOver
    have ended := sound.ended isOver task (List.mem_of_getElem? found)
    rw [wasAlive] at ended
    cases ended

/-- Every step keeps a worker sound. -/
theorem Sound.step
    {after : DurableWorker}
    {action : WorkerAction}
    (sound : worker.Sound workerConcurrency)
    (steps : WorkerStep workerConcurrency worker action after) :
    after.Sound workerConcurrency := by
  cases steps with
  | requestStop =>
      exact
        { tasks := sound.tasks
          tracked := sound.tracked
          bounded := sound.bounded
          room := sound.room
          ended := sound.ended }
  | turn point => exact sound.turn
  | expired point => exact sound.poll
  | unexpired point => exact sound.rest
  | claimed claim point =>
      rw [← poll_from_top]
      exact (sound.execute claim point).poll
  | unclaimed point => exact sound.rest
  | claimFails point => exact sound.rest
  | waited point => exact sound.forgets (by simp) (by simp)
  | slept point =>
      exact sound.elsewhere worker.stopping (by simp) (by simp)
  | drained point isOver =>
      exact
        { tasks := sound.tasks
          tracked := sound.tracked
          bounded := sound.bounded
          room := by simp
          ended := fun _ => sound.isOver isOver }
  | task found steps cancels => exact sound.follow found steps

/-- A worker is sound wherever it gets. -/
theorem sound_of_reachable
    (reached : (durableWorker workerConcurrency).Reachable worker) :
    worker.Sound workerConcurrency := by
  refine reached.invariant ?_ ?_
  · rintro state rfl
    exact
      { tasks := by simp [create]
        tracked := by simp [create]
        bounded := by simp [create]
        room := by simp [create]
        ended := by simp [create] }
  · intro before action after sound steps
    exact sound.step steps

/-- A task with an execution that is alive is among the active ones. -/
theorem Sound.active_of_execution
    {index : Nat}
    {task : ClaimTask}
    (sound : worker.Sound workerConcurrency)
    (found : worker.tasks[index]? = some task)
    (executes : task.execution.alive = true) :
    index ∈ worker.active := by
  refine sound.tracked index task found ?_
  by_contra isOver
  have taskSound := sound.tasks task (List.mem_of_getElem? found)
  rw [(taskSound.over_of_ended (Bool.eq_false_iff.mpr isOver)).1] at executes
  cases executes

/-- The execution of one of the tasks has ended. -/
def Over
    (worker : DurableWorker)
    (index : Nat)
    (ending : TaskEnding String) : Prop :=
  ∃ task,
    worker.tasks[index]? = some task ∧ task.execution = .ended ending

/-- Of the steps of a worker, one of each kind changes the tasks. -/
theorem tasks_of_step
    {after : DurableWorker}
    {action : WorkerAction}
    (steps : WorkerStep workerConcurrency worker action after) :
    after.tasks = worker.tasks ∨
      (∃ claim, after.tasks = worker.tasks ++ [.start claim]) ∨
      ∃ index event task next,
        worker.tasks[index]? = some task ∧
          TaskStep task event next ∧
          after.tasks = worker.tasks.set index next := by
  have rests (resting : DurableWorker) :
      resting.rest.tasks = resting.tasks := rfl
  have polls (polling : DurableWorker) :
      (polling.poll workerConcurrency).tasks = polling.tasks := by
    unfold poll
    split <;> rfl
  cases steps with
  | requestStop => exact .inl rfl
  | turn point =>
      refine .inl ?_
      unfold DurableWorker.turn
      split <;> rfl
  | expired point => exact .inl (polls _)
  | unexpired point => exact .inl (rests _)
  | claimed claim point =>
      refine .inr (.inl ⟨claim, ?_⟩)
      rw [polls]
      rfl
  | unclaimed point => exact .inl (rests _)
  | claimFails point => exact .inl (rests _)
  | waited point => exact .inl rfl
  | slept point => exact .inl rfl
  | drained point isOver => exact .inl rfl
  | task found taskSteps cancels =>
      exact .inr (.inr ⟨_, _, _, _, found, taskSteps, rfl⟩)

/-- An execution that is over stays so. -/
theorem Over.step
    {index : Nat}
    {ending : TaskEnding String}
    {after : DurableWorker}
    {action : WorkerAction}
    (isOver : worker.Over index ending)
    (steps : WorkerStep workerConcurrency worker action after) :
    after.Over index ending := by
  obtain ⟨task, found, ended⟩ := isOver
  rcases tasks_of_step steps with
    same | ⟨claim, added⟩ | ⟨changed, event, old, next, oldFound,
      taskSteps, set⟩
  · exact ⟨task, same ▸ found, ended⟩
  · refine ⟨task, ?_, ended⟩
    have within := (List.getElem?_eq_some_iff.mp found).1
    rw [added, List.getElem?_append_left within]
    exact found
  · by_cases same : changed = index
    · subst same
      rw [found] at oldFound
      cases oldFound
      have within := (List.getElem?_eq_some_iff.mp found).1
      refine ⟨next, ?_, ClaimTask.execution_stays taskSteps ended⟩
      rw [set, List.getElem?_set_self within]
    · refine ⟨task, ?_, ended⟩
      rw [set, List.getElem?_set_ne same]
      exact found

/-- A worker that executes its first claim. -/
def executing : DurableWorker where
  stopping := false
  point := .waiting
  active := [0]
  tasks := [.start ⟨"INC-1", "RUN-1", "worker", 1, false⟩]

/-- A worker may come to execute its first claim. -/
theorem executing_reached : (durableWorker 1).Reachable executing := by
  have expiring : (durableWorker 1).Reachable create.turn :=
    .step (.initial rfl) (WorkerStep.turn rfl)
  have claiming : (durableWorker 1).Reachable (create.turn.poll 1) :=
    .step expiring (WorkerStep.expired rfl)
  exact
    .step claiming
      (WorkerStep.claimed ⟨"INC-1", "RUN-1", "worker", 1, false⟩ rfl)

/-- The call for that claim, once its execution has returned. -/
def returnedTask (point : ClaimPoint) : ClaimTask where
  claim := ⟨"INC-1", "RUN-1", "worker", 1, false⟩
  execution := .ended (.returned "COMPLETED")
  heartbeat := .running
  point := point

/-- The worker at a later point of that call. -/
def returned (task : ClaimTask) : DurableWorker :=
  { executing with tasks := [task] }

/-- The only task of that worker goes on. -/
theorem returned_step
    {event : TaskEvent}
    {task after : ClaimTask}
    (steps : TaskStep task event after)
    (uncancelled : event ≠ .interrupted) :
    (durableWorker 1).step (returned task) (.task 0 event)
      (returned after) :=
  WorkerStep.task rfl steps fun cancels => absurd cancels uncancelled

/-- A worker may come to release its claim. -/
theorem releasing_reached :
    (durableWorker 1).Reachable (returned (returnedTask .releasing)) := by
  have returns :
      TaskStep (.start ⟨"INC-1", "RUN-1", "worker", 1, false⟩)
        (.executionEnds (.returned "COMPLETED"))
        (returnedTask .waiting) :=
    .executionEnds _ rfl
  have settles :
      TaskStep (returnedTask .waiting) .wakes
        (returnedTask .releasing) :=
    @TaskStep.settled (returnedTask .waiting) (.returned "COMPLETED") rfl
      rfl
  have executed :
      (durableWorker 1).Reachable (returned (returnedTask .waiting)) :=
    executing_reached.step (returned_step returns (by simp))
  exact executed.step (returned_step settles (by simp))

/-- The claim is released. -/
theorem released_step :
    (durableWorker 1).step (returned (returnedTask .releasing))
      (.task 0 (.answers .releaseClaim (.returned ())))
      (returned
        ((returnedTask .releasing).answered (.returned ()))) :=
  returned_step (.answers _ rfl) (by simp)

/-- The call for that claim, once it has ended. -/
def endedTask : ClaimTask where
  claim := ⟨"INC-1", "RUN-1", "worker", 1, false⟩
  execution := .ended (.returned "COMPLETED")
  heartbeat := .ended .cancelled
  point := .ended (.returned ())

/-- A worker that is asked to stop ends after its claim. -/
theorem ended_reached :
    (durableWorker 1).Reachable
      { stopping := true
        point := .ended
        active := []
        tasks := [endedTask] } := by
  have released := releasing_reached.step released_step
  have cancelled :
      TaskStep ((returnedTask .releasing).answered (.returned ()))
        (.heartbeatEnds .cancelled)
        { endedTask with point := .closing (.returned ()) } :=
    .heartbeatEnds _ rfl
  have cleans :
      TaskStep { endedTask with point := .closing (.returned ()) } .cleaned
        endedTask :=
    .cleaned rfl rfl rfl
  have cleaned :
      (durableWorker 1).Reachable (returned endedTask) :=
    (released.step (returned_step cancelled (by simp))).step
      (returned_step cleans (by simp))
  have stopped := cleaned.step (WorkerStep.requestStop _)
  exact
    (stopped.step (WorkerStep.waited rfl)).step (WorkerStep.turn rfl)

end DurableWorker

/--
However its loop and its tasks are interleaved, and whatever the database
answers, a worker never executes more runs than `worker_concurrency` at a time,
even those it has cancelled.
-/
theorem worker_concurrency_bounded
    {workerConcurrency : Nat}
    {worker : DurableWorker}
    (reached : (durableWorker workerConcurrency).Reachable worker)
    {indices : List Nat}
    (distinct : indices.Nodup)
    (executing :
      ∀ index ∈ indices,
        ∃ task,
          worker.tasks[index]? = some task ∧
            task.execution.alive = true) :
    indices.length ≤ workerConcurrency := by
  have sound := DurableWorker.sound_of_reachable reached
  have active : indices ⊆ worker.active := by
    intro index member
    obtain ⟨task, found, executes⟩ := executing index member
    exact sound.active_of_execution found executes
  calc
    indices.length ≤ worker.active.length :=
      (List.subperm_of_subset distinct active).length_le
    _ ≤ workerConcurrency := sound.bounded

/-- A worker for one run at a time executes its first claim, and no second. -/
theorem worker_concurrency_bounded_one :
    (durableWorker 1).Reachable DurableWorker.executing ∧
      (∀ index ∈ [0],
        ∃ task,
          DurableWorker.executing.tasks[index]? = some task ∧
            task.execution.alive = true) ∧
      [0].length ≤ 1 := by
  have executing :
      ∀ index ∈ [0],
        ∃ task,
          DurableWorker.executing.tasks[index]? = some task ∧
            task.execution.alive = true := by
    intro index member
    rw [List.mem_singleton.mp member]
    exact ⟨_, rfl, rfl⟩
  exact
    ⟨DurableWorker.executing_reached, executing,
      worker_concurrency_bounded DurableWorker.executing_reached
        (by decide) executing⟩

/--
A claim is given back only when its execution has ended, and however the worker
goes on, that execution stays ended: no write of the graph comes after it.
-/
theorem given_back_after_execution
    {workerConcurrency : Nat}
    {worker later : DurableWorker}
    {index : Nat}
    {request : ClosingRequest}
    {answer : TaskEnding Unit}
    {after : DurableWorker}
    (reached : (durableWorker workerConcurrency).Reachable worker)
    (givenBack :
      (durableWorker workerConcurrency).step worker
        (.task index (.answers request answer)) after)
    (leads : (durableWorker workerConcurrency).Leads after later) :
    ∃ ending, worker.Over index ending ∧ later.Over index ending := by
  have sound := DurableWorker.sound_of_reachable reached
  have stays :
      ∀ {ending},
        worker.Over index ending → later.Over index ending := by
    intro ending isOver
    refine
      leads.induct
        (fun first last => first.Over index ending → last.Over index ending)
        (fun state holds => holds) ?_
        (isOver.step givenBack)
    intro first middle last action earlier steps holds
    exact (earlier holds).step steps
  cases givenBack with
  | @task _ _ task _ found steps cancels =>
      cases steps with
      | answers _ asking =>
          have taskSound := sound.tasks task (List.mem_of_getElem? found)
          obtain ⟨ending, ended⟩ :=
            ChildTask.ended_of_not_alive
              (taskSound.over_of_request asking)
          have isOver : worker.Over index ending := ⟨task, found, ended⟩
          exact ⟨ending, isOver, stays isOver⟩

/-- The claim that is released was executed to its end. -/
theorem given_back_after_execution_released :
    ∃ ending,
      DurableWorker.Over
        (.returned (DurableWorker.returnedTask .releasing)) 0 ending := by
  obtain ⟨ending, isOver, -⟩ :=
    given_back_after_execution DurableWorker.releasing_reached
      DurableWorker.released_step (.refl _)
  exact ⟨ending, isOver⟩

/--
Once `run` has returned, no execution and no heartbeat is left of any claim the
worker has ever had.
-/
theorem nothing_outlives_worker
    {workerConcurrency : Nat}
    {worker : DurableWorker}
    (reached : (durableWorker workerConcurrency).Reachable worker)
    (returned : worker.point = .ended)
    {task : ClaimTask}
    (member : task ∈ worker.tasks) :
    task.execution.alive = false ∧ task.heartbeat.alive = false := by
  have sound := DurableWorker.sound_of_reachable reached
  exact
    (sound.tasks task member).over_of_ended
      (sound.ended returned task member)

/-- Nothing is left of the one claim of a worker that has stopped. -/
theorem nothing_outlives_worker_one :
    DurableWorker.endedTask.execution.alive = false ∧
      DurableWorker.endedTask.heartbeat.alive = false :=
  nothing_outlives_worker DurableWorker.ended_reached rfl
    List.mem_cons_self

end IncidentPilot
