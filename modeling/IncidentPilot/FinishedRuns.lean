import IncidentPilot.InvestigationRecord
import IncidentPilot.ProgressReports
import IncidentPilot.TerminalRuns
import IncidentPilot.WorkflowReplay

/-!
# Finished runs and their evidence

One execution of a run from its entry to the commit that sets the status.  The
graph ends normally, or `_execute_graph` swallows an exception and goes on with
the state the run began with, or the executor halts the run without persisting
anything.  What the completed nodes have recorded is a history variable.
-/

namespace IncidentPilot

/--
How the graph of an execution ends: it returns a state, or it raises an
exception that `_execute_graph` swallows.
-/
inductive GraphExit where
  | returned
  | raised
  deriving DecidableEq

/--
An execution with the tables it persists to and the columns of the run it has
refreshed.  `recorded` is the state its last completed node left, `exit` tells
how its graph ended, and `persisted` is the final state it has persisted.
-/
structure RunExecution where
  world : WorkflowWorld
  point : ExecutionPoint
  tables : InvestigationTables
  refreshed : RefreshedRun
  recorded : AgentState
  exit : Option GraphExit
  persisted : Option AgentState

/-- The state of the completed nodes once an execution has moved. -/
def ExecutionPoint.recordedAfter
    (before after : ExecutionPoint)
    (recorded : AgentState) : AgentState :=
  match before, after with
  | _, .between _ _ session => session.state
  | .entering _, .persisting _ final => final
  | .running _ _ (.done _), .persisting _ final => final
  | _, _ => recorded

/-- How the graph has ended once an execution has moved. -/
def ExecutionPoint.exitAfter
    (before after : ExecutionPoint)
    (exit : Option GraphExit) : Option GraphExit :=
  match before, after with
  | .entering _, .persisting _ _ => some .returned
  | .running _ _ (.done _), .persisting _ _ => some .returned
  | _, .persisting _ _ => some .raised
  | _, _ => exit

/-- The columns of the run are refreshed when it is marked. -/
def ExecutionPoint.refreshedAfter
    (before : ExecutionPoint)
    (world : WorkflowWorld)
    (refreshed : RefreshedRun) : RefreshedRun :=
  match before with
  | .marking _ => world.store.run.refreshed
  | _ => refreshed

/-- The transaction is made by the execution itself. -/
def Transaction.isFenced : Transaction → Bool
  | .fenced .. => true
  | _ => false

/-- What an execution does next. -/
inductive ExecutionAction where
  | advance
  | persist
  | finish
  | halt (target : AgentRunStatus)
  | outside (transaction : Transaction)
  | tick (seconds : Nat)

section

variable (setup : WorkflowSetup)

/-- The moves of one execution that holds its lease. -/
inductive ExecutionStep :
    RunExecution → ExecutionAction → RunExecution → Prop where
  | advance
      {execution : RunExecution}
      {world : WorkflowWorld}
      {point : ExecutionPoint}
      (inGraph :
        ∀ attempt final,
          execution.point ≠ .persisting attempt final ∧
            execution.point ≠ .finishing attempt final)
      (advances :
        setup.Advances execution.world execution.point world point) :
      ExecutionStep execution .advance
        { execution with
          world := world
          point := point
          refreshed :=
            execution.point.refreshedAfter world execution.refreshed
          recorded :=
            execution.point.recordedAfter point execution.recorded
          exit := execution.point.exitAfter point execution.exit }
  | persist
      {execution : RunExecution}
      {attempt : WorkflowAttempt}
      {final : AgentState}
      {current : Instant}
      {after : RecordedPlane}
      (leaves : execution.point = .persisting attempt final)
      (persisted :
        RecordedPlane.persist setup.tools.json.sha256 setup.deployment
            ⟨execution.world.plane, execution.tables⟩ attempt.claim
            current execution.refreshed final =
          some after) :
      ExecutionStep execution .persist
        { execution with
          world := { execution.world with plane := after.plane }
          point := .finishing attempt final
          tables := after.tables
          persisted := some final }
  | finish
      {execution : RunExecution}
      {attempt : WorkflowAttempt}
      {final : AgentState}
      {current utcnow : Instant}
      {world : WorkflowWorld}
      (leaves : execution.point = .finishing attempt final)
      (committed :
        execution.world.commit setup
            (.fenced attempt.claim current
              (.markStatus .running (finalChange final utcnow))) =
          some world) :
      ExecutionStep execution .finish
        { execution with world := world, point := .ended }
  | halt
      {execution : RunExecution}
      {claim : Option ClaimedRun}
      {target : AgentRunStatus}
      {error : String}
      {current utcnow : Instant}
      {world : WorkflowWorld}
      (committed :
        execution.world.commit setup
            (.fenced claim current
              (.markStatus execution.world.store.run.status
                (haltChange target error utcnow))) =
          some world) :
      ExecutionStep execution (.halt target)
        { execution with world := world, point := .ended }
  | outside
      {execution : RunExecution}
      {transaction : Transaction}
      {world : WorkflowWorld}
      (unfenced : transaction.isFenced = false)
      (committed :
        execution.world.commit setup transaction = some world) :
      ExecutionStep execution (.outside transaction)
        { execution with world := world }
  | tick (execution : RunExecution) (seconds : Nat) :
      ExecutionStep execution (.tick seconds)
        { execution with
          world :=
            { execution.world with
              plane := execution.world.plane.tick seconds } }

/-- The state of the nodes that were completed before an attempt. -/
def WorkflowAttempt.entryState
    (attempt : WorkflowAttempt)
    (world : WorkflowWorld) : Option AgentState :=
  if attempt.recover then
    world.thread.head?.map Checkpoint.state
  else
    none

/-- The completed nodes have recorded neither tool calls nor evidence. -/
def RunExecution.RecordsNothing (execution : RunExecution) : Prop :=
  execution.recorded.toolCalls = [] ∧ execution.recorded.evidence = []

/-- An execution begins by marking the run, with nothing persisted by it. -/
structure RunExecution.Begins (execution : RunExecution) : Prop where
  recorded :
    ∃ attempt,
      execution.point = .marking attempt ∧
        match attempt.entryState execution.world with
        | some state => execution.recorded = state
        | none => execution.RecordsNothing
  persistsNothing : execution.persisted = none

/-- Executions of a run. -/
def executions : Machine RunExecution ExecutionAction where
  initial := RunExecution.Begins
  step := ExecutionStep setup

end

namespace RunExecution

/-- The run and the tables of an execution. -/
abbrev base (execution : RunExecution) : RecordedPlane :=
  ⟨execution.world.plane, execution.tables⟩

end RunExecution

/-- What the execution does not make itself counts no tool calls. -/
theorem Transaction.counts_of_isFenced
    {transaction : Transaction}
    (unfenced : transaction.isFenced = false) :
    transaction.counts = false := by
  cases transaction with
  | fenced => cases unfenced
  | _ => rfl

/-- A move of an execution is about the same run. -/
theorem WorkflowSetup.Advances.sameRun
    {setup : WorkflowSetup}
    {world after : WorkflowWorld}
    {point next : ExecutionPoint}
    (advances : setup.Advances world point after next) :
    after.store.run.id = world.store.run.id := by
  cases advances with
  | mark committed =>
      exact (WorkflowWorld.grows_of_commit committed).store.sameRun
  | serve served => exact served.grows.store.sameRun
  | persist committed =>
      exact (WorkflowWorld.grows_of_commit committed).store.sameRun
  | finish committed =>
      exact (WorkflowWorld.grows_of_commit committed).store.sameRun
  | _ => rfl

namespace RunExecution

variable {setup : WorkflowSetup}

/--
The final state of a graph that returned is the recorded one, and that of one
that raised has no tool calls and no evidence.
-/
def Leaves (execution : RunExecution) (final : AgentState) : Prop :=
  (execution.exit = some .returned ∧ final = execution.recorded) ∨
    (execution.exit = some .raised ∧
      final.toolCalls = [] ∧ final.evidence = [])

/-- The count of the row, where an execution has not persisted yet. -/
def Counted (execution : RunExecution) : Prop :=
  let found := execution.refreshed.toolCallCount
  let count := execution.world.store.run.toolCallCount
  match execution.point with
  | .entering _ => count = found
  | .between _ _ session =>
      count = found ∨ count = session.state.toolCalls.length
  | .running _ _ rest => WorkflowProgram.Reports found rest count
  | .persisting _ final =>
      execution.exit = some .returned →
        count = found ∨ count = final.toolCalls.length
  | _ => True

/-- What a pass has made of the tables an execution began with. -/
structure Wrote
    (start execution : RunExecution)
    (final : AgentState) : Prop where
  leaves : execution.Leaves final
  settled :
    execution.point = .ended ∨
      ∃ attempt, execution.point = .finishing attempt final
  toolCalls :
    ∀ call ∈ final.toolCalls,
      ∃ row,
        row ∈ execution.tables.toolCalls ∧
          row.runPk = execution.base.runPk ∧
          row.toolCallId = call.toolCallId
  evidence :
    ∀ item ∈ final.evidence,
      ∃ row,
        row ∈ execution.tables.evidence ∧
          row.runPk = execution.base.runPk ∧
          row.evidenceId = item.evidenceId
  onlyToolCalls :
    ∀ row, row ∈ execution.tables.toolCalls →
      row ∈ start.tables.toolCalls ∨ final.toolCalls ≠ []
  onlyEvidence :
    ∀ row, row ∈ execution.tables.evidence →
      row ∈ start.tables.evidence ∨ final.evidence ≠ []
  toolCallCount :
    execution.exit = some .returned →
      execution.world.store.run.toolCallCount = final.toolCalls.length

/-- What holds of an execution on its way. -/
structure Sound (start execution : RunExecution) : Prop where
  runPk : execution.base.runPk = start.base.runPk
  unpersisted :
    execution.persisted = none → execution.tables = start.tables
  leaving :
    ∀ attempt final,
      execution.point = .persisting attempt final →
      execution.Leaves final
  counted : execution.Counted
  wrote :
    ∀ final,
      execution.persisted = some final → start.Wrote execution final

/-- An execution that begins is sound. -/
theorem Begins.sound
    {start : RunExecution}
    (begins : start.Begins) :
    start.Sound start := by
  obtain ⟨⟨marking, marks, -⟩, persistsNothing⟩ := begins
  refine ⟨rfl, fun _ => rfl, ?_, ?_, ?_⟩
  · intro attempt final leaves
    rw [marks] at leaves
    cases leaves
  · unfold Counted
    rw [marks]
    trivial
  · intro final persisted
    rw [persistsNothing] at persisted
    cases persisted

/-- What a move of the graph leaves, by how the graph has ended. -/
theorem leaves_of_advances
    {world after : WorkflowWorld}
    {before : ExecutionPoint}
    {attempt : WorkflowAttempt}
    {final recorded : AgentState}
    {exit : Option GraphExit}
    (advances :
      setup.Advances world before after (.persisting attempt final)) :
    (before.exitAfter (.persisting attempt final) exit =
          some .returned ∧
        final =
          before.recordedAfter (.persisting attempt final) recorded) ∨
      (before.exitAfter (.persisting attempt final) exit =
          some .raised ∧
        final.toolCalls = [] ∧ final.evidence = []) := by
  cases advances with
  | recoverEnd => exact .inl ⟨rfl, rfl⟩
  | last => exact .inl ⟨rfl, rfl⟩
  | interrupt => exact .inl ⟨rfl, rfl⟩
  | fail => exact .inr ⟨rfl, rfl, rfl⟩
  | overrun => exact .inr ⟨rfl, rfl, rfl⟩

/-- A move of the graph keeps track of the count. -/
theorem counted_of_advances
    {execution : RunExecution}
    {world : WorkflowWorld}
    {point : ExecutionPoint}
    (counted : execution.Counted)
    (inGraph :
      ∀ attempt final,
        execution.point ≠ .persisting attempt final ∧
          execution.point ≠ .finishing attempt final)
    (advances :
      setup.Advances execution.world execution.point world point) :
    RunExecution.Counted
      { execution with
        world := world
        point := point
        refreshed :=
          execution.point.refreshedAfter world execution.refreshed
        recorded :=
          execution.point.recordedAfter point execution.recorded
        exit := execution.point.exitAfter point execution.exit } := by
  obtain ⟨before, place, tables, refreshed, recorded, exit, persisted⟩ :=
    execution
  unfold Counted at counted ⊢
  dsimp only at counted inGraph advances ⊢
  cases advances with
  | mark committed => rfl
  | begin fresh => exact .inl counted
  | recover recovers newest => exact .inl counted
  | recoverEnd recovers newest => exact fun _ => .inl counted
  | enter attempt node session => exact node_reports _ _ node counted
  | @serve _ _ _ _ _ answer served =>
      obtain ⟨quiet, others⟩ := counted
      have reports := others answer
      rw [← WorkflowSetup.Serves.reported quiet served] at reports
      exact reports
  | complete follows => exact counted
  | last ends noInterrupt => exact fun _ => counted
  | interrupt attempt session => exact fun _ => counted
  | fail keepsLease => exact nofun
  | overrun error => exact nofun
  | persist committed => exact absurd rfl (inGraph _ _).1
  | finish committed => exact absurd rfl (inGraph _ _).2

/-- What a pass wrote stays while only the row of the run changes. -/
theorem Wrote.kept
    {start before : RunExecution}
    {world : WorkflowWorld}
    {point : ExecutionPoint}
    {final : AgentState}
    (wrote : start.Wrote before final)
    (runPk : world.store.run.id = before.base.runPk)
    (toolCallCount :
      world.store.run.toolCallCount =
        before.world.store.run.toolCallCount)
    (settled : point = before.point ∨ point = .ended) :
    start.Wrote { before with world := world, point := point } final where
  leaves := wrote.leaves
  settled := by
    rcases settled with rfl | rfl
    · exact wrote.settled
    · exact .inl rfl
  toolCalls := by
    intro call member
    obtain ⟨row, inTable, ofRun, same⟩ := wrote.toolCalls call member
    exact ⟨row, inTable, ofRun.trans runPk.symm, same⟩
  evidence := by
    intro item member
    obtain ⟨row, inTable, ofRun, same⟩ := wrote.evidence item member
    exact ⟨row, inTable, ofRun.trans runPk.symm, same⟩
  onlyToolCalls := wrote.onlyToolCalls
  onlyEvidence := wrote.onlyEvidence
  toolCallCount returned :=
    toolCallCount.trans (wrote.toolCallCount returned)

/-- An execution stays sound while only the row of the run changes. -/
theorem Sound.kept
    {start before : RunExecution}
    {world : WorkflowWorld}
    {point : ExecutionPoint}
    (sound : start.Sound before)
    (runPk : world.store.run.id = before.base.runPk)
    (toolCallCount :
      world.store.run.toolCallCount =
        before.world.store.run.toolCallCount)
    (settled : point = before.point ∨ point = .ended) :
    start.Sound { before with world := world, point := point } where
  runPk := runPk.trans sound.runPk
  unpersisted := sound.unpersisted
  leaving attempt final leaves := by
    rcases settled with rfl | rfl
    · exact sound.leaving attempt final leaves
    · cases leaves
  counted := by
    rcases settled with rfl | rfl
    · have counted := sound.counted
      unfold Counted at counted ⊢
      dsimp only at counted ⊢
      rw [toolCallCount]
      exact counted
    · trivial
  wrote final persisted :=
    (sound.wrote final persisted).kept runPk toolCallCount settled

/-- A commit that does not count tool calls changes only the row of the run. -/
theorem Sound.commit
    {start before : RunExecution}
    {transaction : Transaction}
    {world : WorkflowWorld}
    {point : ExecutionPoint}
    (sound : start.Sound before)
    (other : transaction.counts = false)
    (committed : before.world.commit setup transaction = some world)
    (settled : point = before.point ∨ point = .ended) :
    start.Sound { before with world := world, point := point } := by
  have wrote := WorkflowWorld.commitStore_of_commit committed
  exact
    sound.kept (Transaction.commitStore_grows wrote).sameRun
      (Transaction.commitStore_toolCallCount other wrote) settled

/-- The pass leaves the count of its final state if the graph returned it. -/
theorem Counted.persisted
    {execution : RunExecution}
    {attempt : WorkflowAttempt}
    {final : AgentState}
    (counted : execution.Counted)
    (leaves : execution.point = .persisting attempt final)
    (returned : execution.exit = some .returned) :
    (unlessLoaded execution.refreshed.toolCallCount
          final.toolCalls.length).getD
        execution.world.store.run.toolCallCount =
      final.toolCalls.length := by
  unfold Counted at counted
  rw [leaves] at counted
  unfold unlessLoaded
  split
  · rename_i unsent
    rcases counted returned with found | reported
    · exact found.trans unsent.symm
    · exact reported
  · rfl

/-- A pass over the state that an execution left with. -/
theorem Sound.persist
    {start before : RunExecution}
    {attempt : WorkflowAttempt}
    {final : AgentState}
    {after : RecordedPlane}
    (sound : start.Sound before)
    (leaves : before.point = .persisting attempt final)
    (persists :
      before.base.Persists setup.tools.json.sha256 before.refreshed final
        after) :
    start.Sound
      { before with
        world := { before.world with plane := after.plane }
        point := .finishing attempt final
        tables := after.tables
        persisted := some final } := by
  have first : before.persisted = none := by
    cases persisted : before.persisted with
    | none => rfl
    | some earlier =>
        have settled := (sound.wrote earlier persisted).settled
        rw [leaves] at settled
        rcases settled with ended | ⟨_, finishing⟩
        · cases ended
        · cases finishing
  have tables := sound.unpersisted first
  have covers := persists.covers
  refine ⟨persists.runPk.trans sound.runPk, ?_, ?_, trivial, ?_⟩
  · rintro ⟨⟩
  · rintro _ _ ⟨⟩
  rintro _ ⟨⟩
  have toolCalls := UniqueTable.mem_insertAll persists.toolCalls
  have evidence := UniqueTable.mem_insertAll persists.evidence
  exact
    { leaves := sound.leaving attempt final leaves
      settled := .inr ⟨attempt, rfl⟩
      toolCalls := by
        intro call member
        obtain ⟨row, inTable, same⟩ :=
          covers.toolCalls _ (List.mem_map_of_mem member)
        simp only [ToolCallRow.sameCall, Bool.and_eq_true,
          decide_eq_true_eq] at same
        exact ⟨row, inTable, same⟩
      evidence := by
        intro item member
        obtain ⟨row, inTable, same⟩ :=
          covers.evidence _ (List.mem_map_of_mem member)
        simp only [EvidenceRow.sameItem, Bool.and_eq_true,
          decide_eq_true_eq] at same
        exact ⟨row, inTable, same⟩
      onlyToolCalls := by
        intro row member
        rcases (toolCalls row).mp member with earlier | added
        · exact .inl (tables ▸ earlier)
        · refine .inr fun none => ?_
          rw [none] at added
          cases added
      onlyEvidence := by
        intro row member
        rcases (evidence row).mp member with earlier | added
        · exact .inl (tables ▸ earlier)
        · refine .inr fun none => ?_
          rw [none] at added
          cases added
      toolCallCount := fun returned =>
        persists.toolCallCount.trans
          (sound.counted.persisted leaves returned) }

/-- Every move of an execution keeps it sound. -/
theorem Sound.step
    {start before after : RunExecution}
    {action : ExecutionAction}
    (sound : start.Sound before)
    (step : ExecutionStep setup before action after) :
    start.Sound after := by
  cases step with
  | @advance world point inGraph advances =>
      have first : before.persisted = none := by
        cases persisted : before.persisted with
        | none => rfl
        | some earlier =>
            rcases (sound.wrote earlier persisted).settled with
              ended | ⟨attempt, finishing⟩
            · rw [ended] at advances
              cases advances
            · exact absurd finishing (inGraph attempt earlier).2
      refine
        ⟨advances.sameRun.trans sound.runPk, sound.unpersisted, ?_,
          counted_of_advances sound.counted inGraph advances, ?_⟩
      · intro attempt final leaves
        have leaving : point = .persisting attempt final := leaves
        subst leaving
        exact leaves_of_advances advances
      · intro final persisted
        have some : before.persisted = some final := persisted
        rw [first] at some
        cases some
  | persist leaves persisted =>
      exact
        sound.persist leaves (RecordedPlane.persists_of_persist persisted)
  | finish leaves committed =>
      exact sound.commit rfl committed (.inr rfl)
  | halt committed =>
      exact sound.commit rfl committed (.inr rfl)
  | outside unfenced committed =>
      exact
        sound.commit (Transaction.counts_of_isFenced unfenced) committed
          (.inl rfl)
  | tick seconds =>
      exact sound.kept rfl rfl (.inl rfl)

end RunExecution

namespace RunExecution

section

variable (setup : WorkflowSetup) (answers : Answers)

/-- The next move of an execution that nothing disturbs. -/
def advanceAlone (execution : RunExecution) : Option RunExecution :=
  match execution.point with
  | .persisting attempt final =>
      (RecordedPlane.persist setup.tools.json.sha256 setup.deployment
        ⟨execution.world.plane, execution.tables⟩ attempt.claim
        execution.world.plane.clock execution.refreshed final).map
          fun after =>
            { execution with
              world := { execution.world with plane := after.plane }
              point := .finishing attempt final
              tables := after.tables
              persisted := some final }
  | .finishing attempt final =>
      (execution.world.commit setup
        (.fenced attempt.claim execution.world.plane.clock
          (.markStatus .running
            (finalChange final execution.world.plane.clock)))).map
          fun world => { execution with world := world, point := .ended }
  | point =>
      (setup.advanceAlone answers execution.world point).map fun after =>
        { execution with
          world := after.1
          point := after.2
          refreshed := point.refreshedAfter after.1 execution.refreshed
          recorded := point.recordedAfter after.2 execution.recorded
          exit := point.exitAfter after.2 execution.exit }

/-- So many moves of an execution. -/
def replay : Nat → RunExecution → Option RunExecution
  | 0, execution => some execution
  | moves + 1, execution =>
      (execution.advanceAlone setup answers).bind (replay moves)

variable {setup} {answers}

end

/-- The first execution of a run that was just admitted. -/
def first (runPk runId incidentPk : String) : RunExecution where
  world :=
    { plane := .admitted runPk runId incidentPk 0
      nextId := 0
      thread := []
      testExecutions := [] }
  point := .marking ⟨none, false⟩
  tables := .empty
  refreshed := firstLoaded
  recorded := initialState runId ⟨"api", "app"⟩
  exit := none
  persisted := none

end RunExecution

end IncidentPilot
