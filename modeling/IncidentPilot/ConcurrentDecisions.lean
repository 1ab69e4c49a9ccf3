import IncidentPilot.RunLifecycle

/-!
# Decisions that race

Any number of calls of `ApprovalService.decide` on one run, statement by
statement: each validates its artifact without a lock, updates the run under the
row lock, inserts its approval and commits.  Between the statements of one call
the other calls go on, and so do all the other transactions on the run, as far
as they can get the row lock.
-/

namespace IncidentPilot

/-- The exceptions `decide` raises or catches. -/
inductive DecideException where
  | valueError (message : String)
  | integrityError
  | approvalConflict (message : String)
  deriving Repr, DecidableEq

/-- `except ValueError as exc: raise ApprovalConflict(str(exc))`. -/
def exceptValueError
    {Value : Type} :
    Except DecideException Value → Except DecideException Value
  | .error (.valueError message) => .error (.approvalConflict message)
  | outcome => outcome

/-- `except IntegrityError`, which is a decision committed before. -/
def exceptIntegrityError
    {Value : Type} :
    Except DecideException Value → Except DecideException Value
  | .error .integrityError =>
      .error (.approvalConflict "approval was already decided")
  | outcome => outcome

/-- Where a call of `decide` stands. -/
inductive DecidePhase where
  | validating
  | updating (artifact : PatchArtifact)
  | inserting (artifact : PatchArtifact) (updatedAt : Instant)
  | returned (outcome : Except DecideException (Approval × AgentRun))
  | cancelled

/-- A call of `decide`, with the `result` of the run it was called with. -/
structure DecisionCall where
  loadedResult : RunResult
  request : DecisionRequest
  phase : DecidePhase

namespace DecisionCall

/-- The next statement of the call takes the row lock. -/
def takesLock (call : DecisionCall) : Bool :=
  match call.phase with
  | .updating _ => true
  | _ => false

/-- The call has updated the run and not committed yet. -/
def holdsLock (call : DecisionCall) : Bool :=
  match call.phase with
  | .inserting _ _ => true
  | _ => false

/-- The call is over. -/
def isOver (call : DecisionCall) : Bool :=
  match call.phase with
  | .returned _ => true
  | .cancelled => true
  | _ => false

/-- The call has committed its decision. -/
def hasCommitted (call : DecisionCall) : Bool :=
  match call.phase with
  | .returned (.ok _) => true
  | _ => false

/-- The call in its next phase. -/
def goesTo (call : DecisionCall) (phase : DecidePhase) : DecisionCall :=
  { call with phase := phase }

/--
The next statement of a call, with the committed store it leaves.  Every error
rolls back, so that the store is left as it was.
-/
def proceed
    (sha256 : String → String)
    (store : Store)
    (utcnow : Instant)
    (call : DecisionCall) : Option (Store × DecisionCall) :=
  match call.phase with
  | .validating =>
      match
        exceptValueError
          ((call.request.artifact sha256 store call.loadedResult).mapError
            .valueError) with
      | .ok artifact => some (store, call.goesTo (.updating artifact))
      | .error raised =>
          some (store, call.goesTo (.returned (.error raised)))
  | .updating artifact =>
      if store.run.status = .waitingApproval then
        some (store, call.goesTo (.inserting artifact utcnow))
      else
        some
          (store,
            call.goesTo
              (.returned
                (.error
                  (.approvalConflict "approval was already decided"))))
  | .inserting artifact updatedAt =>
      let approval := call.request.approval store.run.id artifact utcnow
      match store.approvals.insert approval with
      | none =>
          some
            (store,
              call.goesTo
                (.returned
                  (exceptIntegrityError (.error .integrityError))))
      | some approvals =>
          let run := store.run.decided call.request.decision updatedAt
          some
            ({ store with run := run, approvals := approvals },
              call.goesTo (.returned (.ok (approval, run))))
  | .returned _ => none
  | .cancelled => none

end DecisionCall

/-- The fenced writes that update the row of the run. -/
def FencedWrite.updatesRun : FencedWrite → Bool
  | .check => false
  | .markRunning => true
  | .markStatus _ _ => true
  | .progress _ _ _ => true
  | .investigation _ _ _ _ => true
  | .patchArtifact _ => false
  | .openSideEffect _ _ => false
  | .recordSideEffect _ _ => false

namespace Transaction

/-- A fence under a claim is an update itself. -/
def locksRow : Transaction → Bool
  | fenced currentClaim _ write =>
      currentClaim.isSome || write.updatesRun
  | _ => true

/-- The decisions are made by the calls. -/
def decides : Transaction → Bool
  | decide .. => true
  | _ => false

end Transaction

/-- The control plane, and the calls of `decide` on its run. -/
structure DecisionDesk where
  plane : ControlPlane
  calls : List DecisionCall

/-- What happens next at the desk. -/
inductive DecisionAction where
  | proceed (index : Nat) (utcnow : Instant)
  | cancel (index : Nat)
  | transact (transaction : Transaction)
  | tick (seconds : Nat)

namespace DecisionDesk

/-- A call holds the row lock. -/
def locked (desk : DecisionDesk) : Bool :=
  desk.calls.any DecisionCall.holdsLock

/-- One of the calls has gone on. -/
def follow
    (desk : DecisionDesk)
    (index : Nat)
    (store : Store)
    (call : DecisionCall) : DecisionDesk where
  plane := { desk.plane with store := store }
  calls := desk.calls.set index call

/-- What an action leads to; `none` when it has to wait. -/
def act
    (sha256 : String → String)
    (deployment : Deployment)
    (desk : DecisionDesk) : DecisionAction → Option DecisionDesk
  | .proceed index utcnow =>
      match desk.calls[index]? with
      | none => none
      | some call =>
          if call.takesLock && desk.locked then
            none
          else
            (call.proceed sha256 desk.plane.store utcnow).map fun next =>
              desk.follow index next.1 next.2
  | .cancel index =>
      match desk.calls[index]? with
      | none => none
      | some call =>
          if call.isOver then
            none
          else
            some
              (desk.follow index desk.plane.store
                (call.goesTo .cancelled))
  | .transact transaction =>
      if transaction.decides || (transaction.locksRow && desk.locked) then
        none
      else
        (desk.plane.commit sha256 deployment transaction).map fun plane =>
          { desk with plane := plane }
  | .tick seconds => some { desk with plane := desk.plane.tick seconds }

/-- A run just admitted, and calls that have not begun. -/
structure Initial (desk : DecisionDesk) : Prop where
  plane : desk.plane.Initial
  calls : ∀ call ∈ desk.calls, call.phase = .validating

/-- All the interleavings. -/
def decisions
    (sha256 : String → String)
    (deployment : Deployment) : Machine DecisionDesk DecisionAction :=
  .computed Initial (act sha256 deployment)

end DecisionDesk

/-- A decision is about the same artifact in every later store. -/
theorem DecisionRequest.artifact_grows
    {sha256 : String → String}
    {earlier later : Store}
    {loadedResult : RunResult}
    {request : DecisionRequest}
    {artifact : PatchArtifact}
    (grows : earlier.Grows later)
    (chosen :
      request.artifact sha256 earlier loadedResult = .ok artifact) :
    request.artifact sha256 later loadedResult = .ok artifact := by
  unfold DecisionRequest.artifact at chosen ⊢
  split at chosen
  · cases chosen
  · rename_i candidate accepted
    obtain ⟨validated, named⟩ := validatedArtifact_eq_ok.mp accepted
    rw [validatedArtifact_eq_ok.mpr ⟨grows.validated validated, named⟩]
    exact chosen

namespace DecisionCall

variable {sha256 : String → String}

/-- What each statement of a call checks, and where it leads. -/
inductive Proceeds
    (sha256 : String → String)
    (store : Store)
    (utcnow : Instant)
    (call : DecisionCall) : Store → DecisionCall → Prop where
  | validated
      {artifact : PatchArtifact}
      (phase : call.phase = .validating)
      (chosen :
        call.request.artifact sha256 store call.loadedResult =
          .ok artifact) :
      Proceeds sha256 store utcnow call store
        (call.goesTo (.updating artifact))
  | updated
      {artifact : PatchArtifact}
      (phase : call.phase = .updating artifact)
      (waiting : store.run.status = .waitingApproval) :
      Proceeds sha256 store utcnow call store
        (call.goesTo (.inserting artifact utcnow))
  | committed
      {artifact : PatchArtifact}
      {updatedAt : Instant}
      {approvals : UniqueTable Approval Approval.conflicts}
      (phase : call.phase = .inserting artifact updatedAt)
      (inserted :
        store.approvals.insert
            (call.request.approval store.run.id artifact utcnow) =
          some approvals) :
      Proceeds sha256 store utcnow call
        { store with
          run := store.run.decided call.request.decision updatedAt
          approvals := approvals }
        (call.goesTo
          (.returned
            (.ok
              (call.request.approval store.run.id artifact utcnow,
                store.run.decided call.request.decision updatedAt))))
  | refused
      (message : String) :
      Proceeds sha256 store utcnow call store
        (call.goesTo (.returned (.error (.approvalConflict message))))

/-- Every statement of a call is one of these. -/
theorem proceeds_of_proceed
    {store after : Store}
    {utcnow : Instant}
    {call next : DecisionCall}
    (proceeded : call.proceed sha256 store utcnow = some (after, next)) :
    call.Proceeds sha256 store utcnow after next := by
  unfold proceed at proceeded
  split at proceeded
  · rename_i phase
    cases chosen :
        call.request.artifact sha256 store call.loadedResult with
    | error message =>
        rw [chosen] at proceeded
        cases proceeded
        exact .refused message
    | ok artifact =>
        rw [chosen] at proceeded
        cases proceeded
        exact .validated phase chosen
  · rename_i artifact phase
    split at proceeded
    · rename_i waiting
      cases proceeded
      exact .updated phase waiting
    · cases proceeded
      exact .refused _
  · rename_i artifact updatedAt phase
    dsimp only at proceeded
    split at proceeded
    · cases proceeded
      exact .refused _
    · rename_i approvals inserted
      cases proceeded
      exact .committed phase inserted
  · cases proceeded
  · cases proceeded

/-- What holds of a call between its statements. -/
def Sound
    (sha256 : String → String)
    (store : Store)
    (call : DecisionCall) : Prop :=
  match call.phase with
  | .validating => True
  | .updating artifact =>
      call.request.artifact sha256 store call.loadedResult = .ok artifact
  | .inserting artifact _ =>
      call.request.artifact sha256 store call.loadedResult =
          .ok artifact ∧
        store.run.status = .waitingApproval
  | .returned (.ok (approval, _)) =>
      approval ∈ store.approvals ∧ approval.runPk = store.run.id
  | .returned (.error raised) =>
      ∃ message, raised = .approvalConflict message
  | .cancelled => True

/-- A call stays sound while nobody takes the row from it. -/
theorem Sound.grows
    {earlier later : Store}
    {call : DecisionCall}
    (sound : call.Sound sha256 earlier)
    (grows : earlier.Grows later)
    (held :
      call.holdsLock = true →
      later.run.status = earlier.run.status) :
    call.Sound sha256 later := by
  obtain ⟨loadedResult, request, phase⟩ := call
  cases phase with
  | validating => trivial
  | updating artifact =>
      exact DecisionRequest.artifact_grows grows sound
  | inserting artifact updatedAt =>
      exact
        ⟨DecisionRequest.artifact_grows grows sound.1,
          (held rfl).trans sound.2⟩
  | returned outcome =>
      cases outcome with
      | error raised => exact sound
      | ok decided =>
          exact
            ⟨grows.approvals _ sound.1,
              sound.2.trans grows.sameRun.symm⟩
  | cancelled => trivial

end DecisionCall

/-- A call that goes on keeps what the store holds. -/
theorem DecisionCall.Proceeds.grows
    {sha256 : String → String}
    {store after : Store}
    {utcnow : Instant}
    {call next : DecisionCall}
    (proceeds : call.Proceeds sha256 store utcnow after next) :
    store.Grows after := by
  cases proceeds with
  | validated => exact .refl _
  | updated => exact .refl _
  | committed phase inserted =>
      exact ⟨rfl, UniqueTable.insert_extends inserted, .refl _, .refl _⟩
  | refused => exact .refl _

/-- A transaction that takes no row lock changes neither run nor approvals. -/
theorem Transaction.commitStore_unlocked
    {sha256 : String → String}
    {deployment : Deployment}
    {store after : Store}
    {transaction : Transaction}
    (unlocked : transaction.locksRow = false)
    (committed :
      transaction.commitStore sha256 deployment store = some after) :
    after.run = store.run := by
  cases commits_of_commitStore committed with
  | fenced underClaim passed applied =>
      obtain ⟨-, updates⟩ := Bool.or_eq_false_iff.mp unlocked
      cases FencedWrite.applies_of_apply applied with
      | markRunning active => cases updates
      | markStatus allowed same => cases updates
      | progress => cases updates
      | investigation inserted => cases updates
      | _ => rfl
  | _ =>
      cases unlocked

/-- What a list holds after one of its places has been set. -/
theorem getElem?_of_set
    {Value : Type}
    {values : List Value}
    {index other : Nat}
    {next value : Value}
    (found : (values.set index next)[other]? = some value) :
    other = index ∧ value = next ∨
      other ≠ index ∧ values[other]? = some value := by
  rw [List.getElem?_set] at found
  split at found
  · rename_i same
    split at found
    · cases found
      exact .inl ⟨same.symm, rfl⟩
    · cases found
  · rename_i different
    exact .inr ⟨fun same => different same.symm, found⟩

/-- No two of the calls have a property. -/
def AtMostOne
    (holds : DecisionCall → Prop)
    (calls : List DecisionCall) : Prop :=
  ∀ (first second : Nat) (firstCall secondCall : DecisionCall),
    calls[first]? = some firstCall →
    calls[second]? = some secondCall →
    holds firstCall →
    holds secondCall →
    first = second

/-- One call may get the property when none of them has it. -/
theorem AtMostOne.set
    {holds : DecisionCall → Prop}
    {calls : List DecisionCall}
    (one : AtMostOne holds calls)
    (index : Nat)
    {next : DecisionCall}
    (fresh :
      holds next →
      ∀ {other : Nat} {call : DecisionCall},
        calls[other]? = some call → ¬ holds call) :
    AtMostOne holds (calls.set index next) := by
  intro first second firstCall secondCall isFirst isSecond
    firstHolds secondHolds
  rcases getElem?_of_set isFirst with
    ⟨atIndex, rfl⟩ | ⟨-, firstBefore⟩
  · rcases getElem?_of_set isSecond with
      ⟨alsoIndex, -⟩ | ⟨-, secondBefore⟩
    · exact atIndex.trans alsoIndex.symm
    · exact absurd secondHolds (fresh firstHolds secondBefore)
  · rcases getElem?_of_set isSecond with
      ⟨-, rfl⟩ | ⟨-, secondBefore⟩
    · exact absurd firstHolds (fresh secondHolds firstBefore)
    · exact
        one first second _ _ firstBefore secondBefore firstHolds
          secondHolds

namespace DecisionDesk

variable {sha256 : String → String} {deployment : Deployment}

/-- What an action found, and what it led to. -/
inductive Acts
    (sha256 : String → String)
    (deployment : Deployment)
    (desk : DecisionDesk) : DecisionAction → DecisionDesk → Prop where
  | proceed
      {index : Nat}
      {utcnow : Instant}
      {call next : DecisionCall}
      {store : Store}
      (called : desk.calls[index]? = some call)
      (free : call.takesLock = true → desk.locked = false)
      (proceeds :
        call.Proceeds sha256 desk.plane.store utcnow store next) :
      Acts sha256 deployment desk (.proceed index utcnow)
        (desk.follow index store next)
  | cancel
      {index : Nat}
      {call : DecisionCall}
      (called : desk.calls[index]? = some call) :
      Acts sha256 deployment desk (.cancel index)
        (desk.follow index desk.plane.store (call.goesTo .cancelled))
  | transact
      {transaction : Transaction}
      {plane : ControlPlane}
      (other : transaction.decides = false)
      (free : transaction.locksRow = true → desk.locked = false)
      (committed :
        desk.plane.commit sha256 deployment transaction = some plane) :
      Acts sha256 deployment desk (.transact transaction)
        { desk with plane := plane }
  | tick (seconds : Nat) :
      Acts sha256 deployment desk (.tick seconds)
        { desk with plane := desk.plane.tick seconds }

/-- Every action is one of these. -/
theorem acts_of_act
    {desk after : DecisionDesk}
    {action : DecisionAction}
    (acted : desk.act sha256 deployment action = some after) :
    desk.Acts sha256 deployment action after := by
  cases action with
  | proceed index utcnow =>
      simp only [act] at acted
      split at acted
      · cases acted
      · rename_i call called
        split at acted
        · cases acted
        · rename_i goesOn
          obtain ⟨⟨store, next⟩, proceeded, rfl⟩ :=
            Option.map_eq_some_iff.mp acted
          refine
            .proceed called ?_
              (DecisionCall.proceeds_of_proceed proceeded)
          intro takes
          simpa [takes] using goesOn
  | cancel index =>
      simp only [act] at acted
      split at acted
      · cases acted
      · rename_i call called
        split at acted
        · cases acted
        · cases acted
          exact .cancel called
  | transact transaction =>
      simp only [act] at acted
      split at acted
      · cases acted
      · rename_i goesOn
        obtain ⟨plane, committed, rfl⟩ :=
          Option.map_eq_some_iff.mp acted
        simp only [Bool.or_eq_true, Bool.and_eq_true, not_or, not_and,
          Bool.not_eq_true] at goesOn
        exact .transact goesOn.1 goesOn.2 committed
  | tick seconds =>
      cases acted
      exact .tick seconds

/-- While the desk is not locked, no call holds the lock. -/
theorem not_holdsLock
    {desk : DecisionDesk}
    (free : desk.locked = false)
    {index : Nat}
    {call : DecisionCall}
    (called : desk.calls[index]? = some call) :
    ¬ call.holdsLock = true := by
  unfold locked at free
  rw [List.any_eq_false] at free
  exact free call (List.mem_of_getElem? called)

/-- What holds of the desk between any two actions. -/
structure Sound
    (sha256 : String → String)
    (desk : DecisionDesk) : Prop where
  calls :
    ∀ {index : Nat} {call : DecisionCall},
      desk.calls[index]? = some call →
      call.Sound sha256 desk.plane.store
  oneHolder :
    AtMostOne (fun call => call.holdsLock = true) desk.calls
  oneCommitted :
    AtMostOne (fun call => call.hasCommitted = true) desk.calls

/-- A committed call has left an approval of the run. -/
theorem Sound.approved
    {desk : DecisionDesk}
    (sound : desk.Sound sha256)
    {index : Nat}
    {call : DecisionCall}
    (called : desk.calls[index]? = some call)
    (committed : call.hasCommitted = true) :
    ∃ approval,
      approval ∈ desk.plane.store.approvals ∧
        approval.runPk = desk.plane.store.run.id := by
  have kept := sound.calls called
  unfold DecisionCall.hasCommitted at committed
  split at committed
  · rename_i decided phase
    unfold DecisionCall.Sound at kept
    rw [phase] at kept
    exact ⟨decided.1, kept⟩
  · cases committed

/-- A call whose insertion succeeds is the first to commit. -/
theorem Sound.not_committed
    {desk : DecisionDesk}
    (sound : desk.Sound sha256)
    {row : Approval}
    {approvals : UniqueTable Approval Approval.conflicts}
    (ownRow : row.runPk = desk.plane.store.run.id)
    (inserted :
      desk.plane.store.approvals.insert row = some approvals)
    {index : Nat}
    {call : DecisionCall}
    (called : desk.calls[index]? = some call) :
    ¬ call.hasCommitted = true := by
  intro committed
  obtain ⟨approval, member, ofRun⟩ := sound.approved called committed
  have free := UniqueTable.insert_free inserted member
  simp [Approval.conflicts, ownRow, ofRun] at free

/-- A call that goes on keeps the desk sound. -/
theorem Sound.proceed
    {desk : DecisionDesk}
    (sound : desk.Sound sha256)
    {index : Nat}
    {utcnow : Instant}
    {call next : DecisionCall}
    {store : Store}
    (called : desk.calls[index]? = some call)
    (free : call.takesLock = true → desk.locked = false)
    (proceeds :
      call.Proceeds sha256 desk.plane.store utcnow store next) :
    (desk.follow index store next).Sound sha256 := by
  have before := sound.calls called
  have others
      (status :
        store.run.status = desk.plane.store.run.status ∨
          call.holdsLock = true)
      (nextSound : next.Sound sha256 store)
      {other : Nat}
      {later : DecisionCall}
      (found : (desk.calls.set index next)[other]? = some later) :
      later.Sound sha256 store := by
    rcases getElem?_of_set found with ⟨-, rfl⟩ | ⟨different, foundBefore⟩
    · exact nextSound
    · refine (sound.calls foundBefore).grows proceeds.grows ?_
      intro holds
      rcases status with same | alsoHolds
      · exact same
      · exact
          absurd (sound.oneHolder _ _ _ _ foundBefore called holds
              alsoHolds)
            different
  cases proceeds with
  | validated phase chosen =>
      exact
        { calls := others (.inl rfl) chosen
          oneHolder := sound.oneHolder.set index nofun
          oneCommitted := sound.oneCommitted.set index nofun }
  | @updated artifact phase waiting =>
      have chosen :
          call.request.artifact sha256 desk.plane.store
            call.loadedResult = .ok artifact := by
        unfold DecisionCall.Sound at before
        rw [phase] at before
        exact before
      have takes : call.takesLock = true := by
        unfold DecisionCall.takesLock
        rw [phase]
      exact
        { calls := others (.inl rfl) ⟨chosen, waiting⟩
          oneHolder :=
            sound.oneHolder.set index fun _ _ _ =>
              not_holdsLock (free takes)
          oneCommitted := sound.oneCommitted.set index nofun }
  | @committed artifact updatedAt approvals phase inserted =>
      have holds : call.holdsLock = true := by
        unfold DecisionCall.holdsLock
        rw [phase]
      have member :=
        (UniqueTable.mem_insert inserted
          (call.request.approval desk.plane.store.run.id artifact
            utcnow)).mpr (.inr rfl)
      exact
        { calls := others (.inr holds) ⟨member, rfl⟩
          oneHolder := sound.oneHolder.set index nofun
          oneCommitted :=
            sound.oneCommitted.set index fun _ _ _ =>
              sound.not_committed rfl inserted }
  | refused message =>
      exact
        { calls := others (.inl rfl) ⟨message, rfl⟩
          oneHolder := sound.oneHolder.set index nofun
          oneCommitted := sound.oneCommitted.set index nofun }

/-- Every action keeps the desk sound. -/
theorem Sound.acts
    {desk after : DecisionDesk}
    {action : DecisionAction}
    (sound : desk.Sound sha256)
    (acts : desk.Acts sha256 deployment action after) :
    after.Sound sha256 := by
  cases acts with
  | proceed called free proceeds =>
      exact sound.proceed called free proceeds
  | @cancel index call called =>
      refine
        ⟨?_, sound.oneHolder.set index nofun,
          sound.oneCommitted.set index nofun⟩
      intro other later found
      rcases getElem?_of_set found with ⟨-, rfl⟩ | ⟨-, foundBefore⟩
      · trivial
      · exact sound.calls foundBefore
  | @transact transaction plane other free committed =>
      obtain ⟨-, wrote, -, -⟩ := ControlPlane.commit_eq_some.mp committed
      refine ⟨?_, sound.oneHolder, sound.oneCommitted⟩
      intro index call called
      refine
        (sound.calls called).grows
          (Transaction.commitStore_grows wrote) ?_
      intro holds
      have unlocked : transaction.locksRow = false := by
        rw [← Bool.not_eq_true]
        exact fun locks =>
          not_holdsLock (free locks) called holds
      rw [Transaction.commitStore_unlocked unlocked wrote]
  | tick seconds =>
      exact ⟨sound.calls, sound.oneHolder, sound.oneCommitted⟩

/-- A desk nobody has come to is sound. -/
theorem Initial.sound
    {desk : DecisionDesk}
    (initial : desk.Initial) :
    desk.Sound sha256 := by
  have validating
      {index : Nat}
      {call : DecisionCall}
      (called : desk.calls[index]? = some call) :
      call.phase = .validating :=
    initial.calls call (List.mem_of_getElem? called)
  constructor
  · intro index call called
    unfold DecisionCall.Sound
    rw [validating called]
    trivial
  · intro first second firstCall secondCall called _ holds _
    unfold DecisionCall.holdsLock at holds
    rw [validating called] at holds
    cases holds
  · intro first second firstCall secondCall called _ committed _
    unfold DecisionCall.hasCommitted at committed
    rw [validating called] at committed
    cases committed

end DecisionDesk

namespace DecisionDesk

variable {sha256 : String → String} {deployment : Deployment}

/-- The run at a desk lives as under transactions that commit at once. -/
def refinesLifecycle
    (sha256 : String → String)
    (deployment : Deployment) :
    Machine.Simulation (decisions sha256 deployment)
      (ControlPlane.lifecycle sha256 deployment) where
  related desk plane := desk.Sound sha256 ∧ desk.plane = plane
  initial initial := ⟨_, initial.plane, initial.sound, rfl⟩
  step := by
    rintro before action after image ⟨sound, rfl⟩ step
    have acts := acts_of_act step
    have soundAfter := sound.acts acts
    cases acts with
    | @proceed index utcnow call next store called free proceeds =>
        cases proceeds with
        | validated => exact .inl ⟨soundAfter, rfl⟩
        | updated => exact .inl ⟨soundAfter, rfl⟩
        | refused => exact .inl ⟨soundAfter, rfl⟩
        | @committed artifact updatedAt approvals phase inserted =>
            have held := sound.calls called
            unfold DecisionCall.Sound at held
            rw [phase] at held
            let decided : Store :=
              { before.plane.store with
                run :=
                  before.plane.store.run.decided call.request.decision
                    updatedAt
                approvals := approvals }
            have decides :
                ApprovalService.decide sha256 call.loadedResult
                    call.request updatedAt utcnow before.plane.store =
                  .ok decided :=
              ApprovalService.decide_eq_ok.mpr
                ⟨artifact, approvals, held.1, held.2, inserted, rfl⟩
            have commits :
                before.plane.commit sha256 deployment
                    (.decide call.loadedResult call.request updatedAt
                      utcnow) =
                  some { before.plane with store := decided } :=
              ControlPlane.commit_eq_some.mpr
                ⟨nofun, Transaction.commitStore_eq_some.mpr decides, rfl,
                  rfl⟩
            have moves :
                (ControlPlane.lifecycle sha256 deployment).step
                  before.plane
                  (.commit
                    (.decide call.loadedResult call.request updatedAt
                      utcnow))
                  { before.plane with store := decided } :=
              RowLock.AtomicStep.commit commits
            exact .inr ⟨_, _, moves, soundAfter, rfl⟩
    | cancel => exact .inl ⟨soundAfter, rfl⟩
    | @transact transaction plane other free committed =>
        exact
          .inr
            ⟨.commit transaction, plane,
              RowLock.AtomicStep.commit committed, soundAfter, rfl⟩
    | tick seconds =>
        exact
          .inr
            ⟨.drift seconds, _,
              RowLock.AtomicStep.drift before.plane seconds, soundAfter,
              rfl⟩

end DecisionDesk

end IncidentPilot
