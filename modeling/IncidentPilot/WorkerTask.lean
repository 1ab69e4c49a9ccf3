import IncidentPilot.RetryOffset
import IncidentPilot.RunLifecycle

/-!
# One claim in a worker

`_execute_claim` of `worker.py`: a task that runs the execution of a claim and
its heartbeat as tasks of its own, waits for whichever ends first, gives the
claim back in one transaction, and in its `finally` cancels both and waits for
them.  A task that is cancelled goes on until it lets the cancellation through.
-/

namespace IncidentPilot

/-- An exception: its type, its text, and `isinstance(exc, (ValueError, TypeError))`. -/
structure TaskException where
  name : String
  text : String
  isValueOrTypeError : Bool
  deriving Repr, DecidableEq

/-- How an asyncio task ends. -/
inductive TaskEnding (Value : Type) where
  | returned (value : Value)
  | raised (exception : TaskException)
  | cancelled
  deriving Repr, DecidableEq

/-- A task started by another one. -/
inductive ChildTask (Value : Type) where
  | running
  | cancelling
  | ended (ending : TaskEnding Value)
  deriving Repr, DecidableEq

namespace ChildTask

variable {Value : Type}

/-- The task has not ended. -/
def alive : ChildTask Value → Bool
  | running => true
  | cancelling => true
  | ended _ => false

/-- `task.cancel()`, which asks a task that has not ended to end. -/
def cancel : ChildTask Value → ChildTask Value
  | running => cancelling
  | cancelling => cancelling
  | ended ending => ended ending

@[simp] theorem alive_cancel (child : ChildTask Value) :
    child.cancel.alive = child.alive := by
  cases child <;> rfl

@[simp] theorem cancel_ne_running (child : ChildTask Value) :
    child.cancel ≠ running := by
  cases child <;> simp [cancel]

/-- A task that is not alive has ended somehow. -/
theorem ended_of_not_alive
    {child : ChildTask Value}
    (isOver : child.alive = false) :
    ∃ ending, child = ended ending := by
  cases child with
  | ended ending => exact ⟨ending, rfl⟩
  | running => cases isOver
  | cancelling => cases isOver

end ChildTask

/-- Where `_execute_claim` stands. -/
inductive ClaimPoint where
  | waiting
  | joining
  | releasing
  | loading (error : TaskException)
  | marking (error : TaskException)
  | retrying (error : TaskException)
  | closing (ending : TaskEnding Unit)
  | ended (ending : TaskEnding Unit)
  deriving Repr, DecidableEq

/-- A call of `_execute_claim`; the execution returns a status. -/
structure ClaimTask where
  claim : ClaimedRun
  execution : ChildTask String
  heartbeat : ChildTask Unit
  point : ClaimPoint
  deriving Repr, DecidableEq

/-- The transactions that give a claim back. -/
inductive ClosingRequest where
  | releaseClaim
  | markForHuman (error : String)
  | retryClaim (failureCategory : String) (delaySeconds : Nat)
  deriving Repr, DecidableEq

namespace ClaimTask

/-- A claim that has just been handed out. -/
def start (claim : ClaimedRun) : ClaimTask where
  claim := claim
  execution := .running
  heartbeat := .running
  point := .waiting

/-- The call has not ended. -/
def alive (task : ClaimTask) : Bool :=
  match task.point with
  | .ended _ => false
  | _ => true

/-- The `finally` of `_execute_claim`, up to the point where it waits. -/
def close (task : ClaimTask) (ending : TaskEnding Unit) : ClaimTask :=
  { task with
    execution := task.execution.cancel
    heartbeat := task.heartbeat.cancel
    point := .closing ending }

/-- `except Exception as exc`. -/
def handle (task : ClaimTask) (error : TaskException) : ClaimTask :=
  { task with
    point :=
      if error.isValueOrTypeError = true then
        .loading error
      else
        .retrying error }

/-- The transaction a call is in, if it is in one. -/
def request (task : ClaimTask) : Option ClosingRequest :=
  match task.point with
  | .releasing => some .releaseClaim
  | .marking error =>
      some (.markForHuman (String.ofList (error.text.toList.take 2000)))
  | .retrying error =>
      some (.retryClaim error.name (workerRetryDelay task.claim.attemptCount))
  | _ => none

/-- The exception for a heartbeat that has returned. -/
def lostOwnership : TaskException where
  name := "RuntimeError"
  text := "lease ownership lost during execution"
  isValueOrTypeError := false

/-- `result = await execution`, once the execution has ended. -/
def settle (task : ClaimTask) : TaskEnding String → ClaimTask
  | .returned _ => { task with point := .releasing }
  | .raised error => task.handle error
  | .cancelled => task.close .cancelled

/-- `heartbeat.result()`, and the exception if there is none. -/
def abandon (task : ClaimTask) : TaskEnding Unit → ClaimTask
  | .returned () => task.handle lostOwnership
  | .raised error => task.handle error
  | .cancelled => task.close .cancelled

/-- What becomes of a call whose transaction has an answer. -/
def answered (task : ClaimTask) (answer : TaskEnding Unit) : ClaimTask :=
  match task.point, answer with
  | .releasing, .raised error => task.handle error
  | _, answer => task.close answer

end ClaimTask

/-- What may happen to a call of `_execute_claim`. -/
inductive TaskEvent where
  | executionEnds (ending : TaskEnding String)
  | heartbeatEnds (ending : TaskEnding Unit)
  | wakes
  | joins
  | loads (found : Bool)
  | loadFails (ending : TaskEnding Unit)
  | answers (request : ClosingRequest) (answer : TaskEnding Unit)
  | interrupted
  | cleaned

/-- One step of a call of `_execute_claim`. -/
inductive TaskStep : ClaimTask → TaskEvent → ClaimTask → Prop where
  | executionEnds
      {task : ClaimTask}
      (ending : TaskEnding String)
      (alive : task.execution.alive = true) :
      TaskStep task (.executionEnds ending)
        { task with execution := .ended ending }
  | heartbeatEnds
      {task : ClaimTask}
      (ending : TaskEnding Unit)
      (alive : task.heartbeat.alive = true) :
      TaskStep task (.heartbeatEnds ending)
        { task with heartbeat := .ended ending }
  | settled
      {task : ClaimTask}
      {ending : TaskEnding String}
      (point : task.point = .waiting)
      (isOver : task.execution = .ended ending) :
      TaskStep task .wakes (task.settle ending)
  | unowned
      {task : ClaimTask}
      (point : task.point = .waiting)
      (isOver : task.heartbeat.alive = false)
      (goesOn : task.execution.alive = true) :
      TaskStep task .wakes
        { task with
          execution := task.execution.cancel
          point := .joining }
  | joins
      {task : ClaimTask}
      {ending : TaskEnding Unit}
      (point : task.point = .joining)
      (isOver : task.execution.alive = false)
      (ended : task.heartbeat = .ended ending) :
      TaskStep task .joins (task.abandon ending)
  | missing
      {task : ClaimTask}
      {error : TaskException}
      (point : task.point = .loading error) :
      TaskStep task (.loads false) (task.close (.returned ()))
  | found
      {task : ClaimTask}
      {error : TaskException}
      (point : task.point = .loading error) :
      TaskStep task (.loads true) { task with point := .marking error }
  | loadFails
      {task : ClaimTask}
      {error : TaskException}
      {ending : TaskEnding Unit}
      (point : task.point = .loading error)
      (failed : ending ≠ .returned ()) :
      TaskStep task (.loadFails ending) (task.close ending)
  | answers
      {task : ClaimTask}
      {request : ClosingRequest}
      (answer : TaskEnding Unit)
      (asking : task.request = some request) :
      TaskStep task (.answers request answer) (task.answered answer)
  -- A cancelled `gather` still waits for the execution before it raises.
  | interrupted
      {task : ClaimTask}
      (point : task.point = .waiting ∨ task.point = .joining) :
      TaskStep task .interrupted (task.close .cancelled)
  | cleaned
      {task : ClaimTask}
      {ending : TaskEnding Unit}
      (point : task.point = .closing ending)
      (executionOver : task.execution.alive = false)
      (heartbeatOver : task.heartbeat.alive = false) :
      TaskStep task .cleaned { task with point := .ended ending }

namespace ClaimTask

/-- What holds of the tasks of a call, wherever it stands. -/
def Sound (task : ClaimTask) : Prop :=
  match task.point with
  | .waiting => True
  | .joining =>
      task.heartbeat.alive = false ∧ task.execution ≠ .running
  | .releasing => task.execution.alive = false
  | .loading _ => task.execution.alive = false
  | .marking _ => task.execution.alive = false
  | .retrying _ => task.execution.alive = false
  | .closing _ =>
      task.execution ≠ .running ∧ task.heartbeat ≠ .running
  | .ended _ =>
      task.execution.alive = false ∧ task.heartbeat.alive = false

/-- A call begins sound. -/
theorem start_sound (claim : ClaimedRun) : (start claim).Sound :=
  trivial

/-- A call that closes is sound. -/
theorem close_sound (task : ClaimTask) (ending : TaskEnding Unit) :
    (task.close ending).Sound := by
  simp [close, Sound]

/-- A call may handle an exception once its execution has ended. -/
theorem handle_sound
    {task : ClaimTask}
    (error : TaskException)
    (isOver : task.execution.alive = false) :
    (task.handle error).Sound := by
  by_cases given : error.isValueOrTypeError = true
  · simp only [handle, if_pos given, Sound]
    exact isOver
  · simp only [handle, if_neg given, Sound]
    exact isOver

/-- In a transaction that gives the claim back, the execution has ended. -/
theorem Sound.over_of_request
    {task : ClaimTask}
    {request : ClosingRequest}
    (sound : task.Sound)
    (asking : task.request = some request) :
    task.execution.alive = false := by
  unfold Sound at sound
  unfold ClaimTask.request at asking
  cases point : task.point <;>
    simp only [point] at sound asking <;>
    first
      | exact sound
      | cases asking

/-- Every step of a call keeps it sound. -/
theorem Sound.step
    {task after : ClaimTask}
    {event : TaskEvent}
    (sound : task.Sound)
    (steps : TaskStep task event after) :
    after.Sound := by
  cases steps with
  | executionEnds ending alive =>
      unfold Sound at sound ⊢
      cases point : task.point <;>
        simp_all [ChildTask.alive]
  | heartbeatEnds ending alive =>
      unfold Sound at sound ⊢
      cases point : task.point <;>
        simp_all [ChildTask.alive]
  | @settled ending point isOver =>
      cases ending with
      | returned status =>
          simp [settle, Sound, isOver, ChildTask.alive]
      | raised error =>
          exact handle_sound error (by simp [isOver, ChildTask.alive])
      | cancelled =>
          exact close_sound task .cancelled
  | unowned point isOver goesOn =>
      exact ⟨isOver, ChildTask.cancel_ne_running _⟩
  | @joins ending point isOver ended =>
      cases ending with
      | returned value =>
          exact handle_sound lostOwnership isOver
      | raised error =>
          exact handle_sound error isOver
      | cancelled =>
          exact close_sound task .cancelled
  | missing point =>
      exact close_sound task _
  | found point =>
      simp only [Sound, point] at sound ⊢
      exact sound
  | loadFails point failed =>
      exact close_sound task _
  | answers answer asking =>
      have isOver := sound.over_of_request asking
      unfold answered
      split
      · exact handle_sound _ isOver
      · exact close_sound task _
  | interrupted point =>
      exact close_sound task _
  | cleaned point executionOver heartbeatOver =>
      exact ⟨executionOver, heartbeatOver⟩

/-- A call that is not alive has ended somehow. -/
theorem ended_of_not_alive
    {task : ClaimTask}
    (isOver : task.alive = false) :
    ∃ ending, task.point = .ended ending := by
  unfold alive at isOver
  cases point : task.point with
  | ended ending => exact ⟨ending, rfl⟩
  | _ =>
      simp only [point] at isOver
      cases isOver

/-- A call that has ended has left nothing behind. -/
theorem Sound.over_of_ended
    {task : ClaimTask}
    (sound : task.Sound)
    (isOver : task.alive = false) :
    task.execution.alive = false ∧ task.heartbeat.alive = false := by
  obtain ⟨ending, point⟩ := ended_of_not_alive isOver
  unfold Sound at sound
  rw [point] at sound
  exact sound

/-- A call that has ended makes no more steps. -/
theorem Sound.alive_of_step
    {task after : ClaimTask}
    {event : TaskEvent}
    (sound : task.Sound)
    (steps : TaskStep task event after) :
    task.alive = true := by
  by_contra notAlive
  have isOver : task.alive = false := Bool.eq_false_iff.mpr notAlive
  obtain ⟨ending, ended⟩ := ended_of_not_alive isOver
  obtain ⟨executionOver, heartbeatOver⟩ := sound.over_of_ended isOver
  cases steps with
  | executionEnds ending alive =>
      rw [executionOver] at alive
      cases alive
  | heartbeatEnds ending alive =>
      rw [heartbeatOver] at alive
      cases alive
  | answers answer asking =>
      simp [request, ended] at asking
  | interrupted point =>
      simp [ended] at point
  | settled point isOver => simp [ended] at point
  | unowned point isOver goesOn => simp [ended] at point
  | joins point isOver child => simp [ended] at point
  | missing point => simp [ended] at point
  | found point => simp [ended] at point
  | loadFails point failed => simp [ended] at point
  | cleaned point executionOver heartbeatOver => simp [ended] at point

/-- An execution that has ended stays as it has ended. -/
theorem execution_stays
    {task after : ClaimTask}
    {event : TaskEvent}
    {ending : TaskEnding String}
    (steps : TaskStep task event after)
    (isOver : task.execution = .ended ending) :
    after.execution = .ended ending := by
  have closes (closing : TaskEnding Unit) :
      (task.close closing).execution = .ended ending := by
    simp [close, isOver, ChildTask.cancel]
  cases steps with
  | executionEnds other alive =>
      rw [isOver] at alive
      cases alive
  | heartbeatEnds other alive =>
      exact isOver
  | @settled settled point ended =>
      cases settled with
      | returned status => exact isOver
      | raised error => exact isOver
      | cancelled => exact closes .cancelled
  | unowned point heartbeatOver goesOn =>
      rw [isOver] at goesOn
      cases goesOn
  | @joins abandoned point executionOver ended =>
      cases abandoned with
      | returned value => exact isOver
      | raised error => exact isOver
      | cancelled => exact closes .cancelled
  | missing point => exact closes _
  | found point => exact isOver
  | loadFails point failed => exact closes _
  | answers answer asking =>
      unfold answered
      split
      · exact isOver
      · exact closes _
  | interrupted point => exact closes .cancelled
  | cleaned point executionOver heartbeatOver => exact isOver

/-- A call keeps its claim, and its heartbeat does not begin again. -/
theorem keeps_of_step
    {task after : ClaimTask}
    {event : TaskEvent}
    (steps : TaskStep task event after) :
    after.claim = task.claim ∧
      (after.heartbeat = .running → task.heartbeat = .running) := by
  have closes (closing : TaskEnding Unit) :
      (task.close closing).claim = task.claim ∧
        ((task.close closing).heartbeat = .running →
          task.heartbeat = .running) :=
    ⟨rfl, fun runs => absurd runs (ChildTask.cancel_ne_running _)⟩
  cases steps with
  | executionEnds other alive => exact ⟨rfl, id⟩
  | heartbeatEnds other alive =>
      refine ⟨rfl, ?_⟩
      intro runs
      cases runs
  | @settled settled point ended =>
      cases settled with
      | returned status => exact ⟨rfl, id⟩
      | raised error => exact ⟨rfl, id⟩
      | cancelled => exact closes .cancelled
  | unowned point heartbeatOver goesOn => exact ⟨rfl, id⟩
  | @joins abandoned point executionOver ended =>
      cases abandoned with
      | returned value => exact ⟨rfl, id⟩
      | raised error => exact ⟨rfl, id⟩
      | cancelled => exact closes .cancelled
  | missing point => exact closes _
  | found point => exact ⟨rfl, id⟩
  | loadFails point failed => exact closes _
  | answers answer asking =>
      unfold answered
      split
      · exact ⟨rfl, id⟩
      · exact closes _
  | interrupted point => exact closes .cancelled
  | cleaned point executionOver heartbeatOver => exact ⟨rfl, id⟩

/-- An execution that is alive was alive before. -/
theorem execution_was_alive
    {task after : ClaimTask}
    {event : TaskEvent}
    (steps : TaskStep task event after)
    (alive : after.execution.alive = true) :
    task.execution.alive = true := by
  by_contra notAlive
  obtain ⟨ending, ended⟩ :=
    ChildTask.ended_of_not_alive (Bool.eq_false_iff.mpr notAlive)
  rw [execution_stays steps ended] at alive
  cases alive

end ClaimTask

end IncidentPilot
