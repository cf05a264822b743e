import SignalPurple.Core.Projection
import SignalPurple.Core.Store
import SignalPurple.Foundation.Machine

/-! # The projection actor

The connection actor as far as it projects contents and records acknowledgments.
`project_content` and `process_acknowledgments` are cut at their await points: between
two steps of the actor the UI thread may submit any delivery id, and shutdown may drop
the future that is being awaited.

A handler that returns `AwaitingAck` emits the event with the delivery id after its last
await, so neither shutdown nor another step of the actor comes between the two, and they
are one step here.
-/

namespace SignalPurple

/-- Where the actor is, with what its suspended future holds. -/
inductive ActorPhase where
  /-- Between two rounds of the dispatch loop. -/
  | idle
  /-- `project_content` awaits `handle_content`. -/
  | handling (deliveryId : DeliveryId) (content : Content)
  /-- `project_content` awaits `mark_message_projected`. -/
  | marking (deliveryId : DeliveryId) (content : Content)
  /-- `process_acknowledgments` is about to look at the next id of its batch. -/
  | acknowledging (remaining : List DeliveryId)
  /-- `acknowledge_message` awaits `mark_message_projected`. -/
  | writing (deliveryId : DeliveryId) (content : Content) (remaining : List DeliveryId)
  /-- Shutdown dropped whatever was awaited, and the inbox is still open. -/
  | stopping
  /-- `drain_acknowledgments` returned. -/
  | finished
  deriving DecidableEq

structure ProjectionActor where
  projection : MessageProjection := {}
  phase : ActorPhase := .idle
  isDraining : Bool := false

inductive ActorLabel where
  | submit (deliveryId : DeliveryId)
  | projectContent (content : Content) (groupsAuthoritative : Bool)
  | handled (disposition : ProjectionDisposition)
  | marked (result : StoreWrite)
  | processAcknowledgments
  | acknowledgeNext
  | acknowledged (result : StoreWrite)
  | activateRetries
  | shutdown
  | drain

/-- What the rest of the program sees of the actor. -/
inductive ActorEntry where
  | tracked (deliveryId : DeliveryId) (content : Content)
  | disposed (deliveryId : DeliveryId) (disposition : ProjectionDisposition)
  | untracked (deliveryId : DeliveryId)
  | submitted (deliveryId : DeliveryId) (returned : Bool)
  | markCalled (content : Content)
  | marked (content : Content)
  | emitted (event : Event)
  deriving DecidableEq

namespace ProjectionActor

def reportStoreError (message : String) (error : StoreError) : List ActorEntry :=
  (error.events message).map .emitted

def submit (actor : ProjectionActor) (deliveryId : DeliveryId) :
    ProjectionActor × List ActorEntry :=
  let submission := actor.projection.acknowledgments.submit deliveryId
  ({ actor with projection := actor.projection.withAcknowledgments submission.state },
    [.submitted deliveryId submission.returned])

/-- `project_content` up to the call of `handle_content`. -/
def projectContent (actor : ProjectionActor) (content : Content)
    (groupsAuthoritative : Bool) : ProjectionActor × List ActorEntry :=
  if !contentIsProjectable content.body groupsAuthoritative then (actor, [])
  else
    match actor.projection.track content with
    | (projection, none) => ({ actor with projection }, [])
    | (projection, some deliveryId) =>
        ({ actor with projection, phase := .handling deliveryId content },
          [.tracked deliveryId content])

def release (actor : ProjectionActor) (deliveryId : DeliveryId) (phase : ActorPhase) :
    ProjectionActor :=
  { actor with projection := (actor.projection.release deliveryId).1, phase }

def complete (actor : ProjectionActor) (deliveryId : DeliveryId) (phase : ActorPhase) :
    ProjectionActor :=
  { actor with projection := (actor.projection.complete deliveryId).1, phase }

/-- `project_content` after `handle_content` returned. -/
def handled (actor : ProjectionActor) (deliveryId : DeliveryId) (content : Content)
    (disposition : ProjectionDisposition) : ProjectionActor × List ActorEntry :=
  let effect := projectionEffect disposition
  if !effect.removePending then
    ({ actor with phase := .idle }, [.disposed deliveryId disposition])
  else if !effect.markProjected then
    (actor.release deliveryId .idle,
      [.disposed deliveryId disposition, .untracked deliveryId])
  else
    ({ actor with phase := .marking deliveryId content },
      [.disposed deliveryId disposition, .markCalled content])

/-- `project_content` after its own `mark_message_projected` returned. -/
def marked (actor : ProjectionActor) (deliveryId : DeliveryId) (content : Content) :
    StoreWrite → ProjectionActor × List ActorEntry
  | .stored =>
      (actor.complete deliveryId .idle, [.marked content, .untracked deliveryId])
  | .failed error =>
      (actor.release deliveryId .idle,
        .untracked deliveryId ::
          reportStoreError "Could not record a handled Signal message" error)

/-- `take_ready` at the start of `process_acknowledgments`. An empty batch ends a drain. -/
def takeBatch (actor : ProjectionActor) : ProjectionActor :=
  let taken := actor.projection.acknowledgments.takeReady acknowledgmentBatchSize
  { actor with
    projection := actor.projection.withAcknowledgments taken.state
    phase :=
      if actor.isDraining && taken.deliveryIds.isEmpty then .finished
      else .acknowledging taken.deliveryIds }

/-- The loop of `process_acknowledgments` up to its next store write. -/
def acknowledgeNext (actor : ProjectionActor) :
    List DeliveryId → ProjectionActor × List ActorEntry
  | [] => (if actor.isDraining then actor.takeBatch else { actor with phase := .idle }, [])
  | deliveryId :: remaining =>
      match actor.projection.pending.lookup deliveryId with
      | none =>
          ({ actor with
             projection := actor.projection.forgetAcknowledgment deliveryId
             phase := .acknowledging remaining }, [])
      | some content =>
          ({ actor with phase := .writing deliveryId content remaining },
            [.markCalled content])

/-- `acknowledge_message` after its store write returned; a drain does not retry. -/
def acknowledged (actor : ProjectionActor) (deliveryId : DeliveryId) (content : Content)
    (remaining : List DeliveryId) : StoreWrite → ProjectionActor × List ActorEntry
  | .stored =>
      (actor.complete deliveryId (.acknowledging remaining),
        [.marked content, .untracked deliveryId])
  | .failed error =>
      ({ actor with
         projection :=
           if actor.isDraining then actor.projection
           else actor.projection.withAcknowledgments
             (actor.projection.acknowledgments.deferRetry deliveryId)
         phase := .acknowledging remaining },
        reportStoreError "Could not acknowledge a displayed Signal message" error)

/-- The first round of `drain_acknowledgments`. -/
def drain (actor : ProjectionActor) : ProjectionActor :=
  takeBatch
    { actor with
      projection := actor.projection.withAcknowledgments
        actor.projection.acknowledgments.close
      isDraining := true }

/-- The points at which a running future can be dropped: its awaits. -/
def isInterruptible : ActorPhase → Bool
  | .idle | .handling _ _ | .marking _ _ | .writing _ _ _ => true
  | .acknowledging _ | .stopping | .finished => false

def step (actor : ProjectionActor) :
    ActorLabel → Option (ProjectionActor × List ActorEntry)
  | .submit deliveryId => some (actor.submit deliveryId)
  | .projectContent content groupsAuthoritative =>
      match actor.phase with
      | .idle => some (actor.projectContent content groupsAuthoritative)
      | _ => none
  | .handled disposition =>
      match actor.phase with
      | .handling deliveryId content => some (actor.handled deliveryId content disposition)
      | _ => none
  | .marked result =>
      match actor.phase with
      | .marking deliveryId content => some (actor.marked deliveryId content result)
      | _ => none
  | .processAcknowledgments =>
      match actor.phase with
      | .idle => some (actor.takeBatch, [])
      | _ => none
  | .acknowledgeNext =>
      match actor.phase with
      | .acknowledging remaining => some (actor.acknowledgeNext remaining)
      | _ => none
  | .acknowledged result =>
      match actor.phase with
      | .writing deliveryId content remaining =>
          some (actor.acknowledged deliveryId content remaining result)
      | _ => none
  | .activateRetries =>
      match actor.phase with
      | .idle =>
          some ({ actor with
            projection := actor.projection.withAcknowledgments
              actor.projection.acknowledgments.activateRetries.1 }, [])
      | _ => none
  | .shutdown =>
      if !actor.isDraining && isInterruptible actor.phase then
        some ({ actor with phase := .stopping }, [])
      else none
  | .drain =>
      match actor.phase with
      | .stopping => some (actor.drain, [])
      | _ => none

def machine : Machine ProjectionActor ActorLabel ActorEntry where
  initial := {}
  step := step

/-! ## What one step can do -/

def withInbox (actor : ProjectionActor) (acknowledgments : AcknowledgmentState) :
    ProjectionActor :=
  { actor with projection := actor.projection.withAcknowledgments acknowledgments }

inductive Transition (actor : ProjectionActor) :
    ActorLabel → ProjectionActor → List ActorEntry → Prop
  | submitAccepted {deliveryId}
      (opened : actor.projection.acknowledgments.isOpen = true)
      (accepts : actor.projection.acknowledgments.accepts deliveryId = true) :
      Transition actor (.submit deliveryId)
        (actor.withInbox (actor.projection.acknowledgments.accept deliveryId))
        [.submitted deliveryId true]
  | submitIgnored {deliveryId returned}
      (isOpen : actor.projection.acknowledgments.isOpen = returned)
      (refused : returned = true →
        actor.projection.acknowledgments.accepts deliveryId = false) :
      Transition actor (.submit deliveryId) actor [.submitted deliveryId returned]
  | projectNothing {content groupsAuthoritative} (idle : actor.phase = .idle) :
      Transition actor (.projectContent content groupsAuthoritative) actor []
  | projectTracked {content groupsAuthoritative} (idle : actor.phase = .idle)
      (room : actor.projection.hasCapacity = true)
      (notPending : projectionIdentity content ∉ actor.projection.identities.pending)
      (notCompleted : projectionIdentity content ∉ actor.projection.identities.completed) :
      Transition actor (.projectContent content groupsAuthoritative)
        { actor with
          projection := actor.projection.tracked content
          phase := .handling actor.projection.issueDeliveryId content }
        [.tracked actor.projection.issueDeliveryId content]
  | handledAwaiting {deliveryId content} (phase : actor.phase = .handling deliveryId content) :
      Transition actor (.handled .awaitingAck) { actor with phase := .idle }
        [.disposed deliveryId .awaitingAck]
  | handledRetry {deliveryId content} (phase : actor.phase = .handling deliveryId content) :
      Transition actor (.handled .retry) (actor.release deliveryId .idle)
        [.disposed deliveryId .retry, .untracked deliveryId]
  | handledComplete {deliveryId content} (phase : actor.phase = .handling deliveryId content) :
      Transition actor (.handled .complete)
        { actor with phase := .marking deliveryId content }
        [.disposed deliveryId .complete, .markCalled content]
  | markStored {deliveryId content} (phase : actor.phase = .marking deliveryId content) :
      Transition actor (.marked .stored) (actor.complete deliveryId .idle)
        [.marked content, .untracked deliveryId]
  | markFailed {deliveryId content error}
      (phase : actor.phase = .marking deliveryId content) :
      Transition actor (.marked (.failed error)) (actor.release deliveryId .idle)
        (.untracked deliveryId ::
          reportStoreError "Could not record a handled Signal message" error)
  | takeBatch (idle : actor.phase = .idle) :
      Transition actor .processAcknowledgments actor.takeBatch []
  | batchDone (phase : actor.phase = .acknowledging []) (live : actor.isDraining = false) :
      Transition actor .acknowledgeNext { actor with phase := .idle } []
  | drainAgain (phase : actor.phase = .acknowledging []) (draining : actor.isDraining = true) :
      Transition actor .acknowledgeNext actor.takeBatch []
  | acknowledgeUnknown {deliveryId remaining}
      (phase : actor.phase = .acknowledging (deliveryId :: remaining))
      (absent : actor.projection.pending.lookup deliveryId = none) :
      Transition actor .acknowledgeNext
        { actor with
          projection := actor.projection.forgetAcknowledgment deliveryId
          phase := .acknowledging remaining } []
  | acknowledgePending {deliveryId content remaining}
      (phase : actor.phase = .acknowledging (deliveryId :: remaining))
      (found : actor.projection.pending.lookup deliveryId = some content) :
      Transition actor .acknowledgeNext
        { actor with phase := .writing deliveryId content remaining } [.markCalled content]
  | writeStored {deliveryId content remaining}
      (phase : actor.phase = .writing deliveryId content remaining) :
      Transition actor (.acknowledged .stored)
        (actor.complete deliveryId (.acknowledging remaining))
        [.marked content, .untracked deliveryId]
  | writeDeferred {deliveryId content remaining error}
      (phase : actor.phase = .writing deliveryId content remaining)
      (live : actor.isDraining = false) :
      Transition actor (.acknowledged (.failed error))
        { actor.withInbox (actor.projection.acknowledgments.deferRetry deliveryId) with
          phase := .acknowledging remaining }
        (reportStoreError "Could not acknowledge a displayed Signal message" error)
  | writeAbandoned {deliveryId content remaining error}
      (phase : actor.phase = .writing deliveryId content remaining)
      (draining : actor.isDraining = true) :
      Transition actor (.acknowledged (.failed error))
        { actor with phase := .acknowledging remaining }
        (reportStoreError "Could not acknowledge a displayed Signal message" error)
  | activateRetries (idle : actor.phase = .idle) :
      Transition actor .activateRetries
        (actor.withInbox actor.projection.acknowledgments.activateRetries.1) []
  | shutdown (live : actor.isDraining = false)
      (interruptible : isInterruptible actor.phase = true) :
      Transition actor .shutdown { actor with phase := .stopping } []
  | drain (phase : actor.phase = .stopping) : Transition actor .drain actor.drain []

theorem step_projectContent {actor : ProjectionActor} (idle : actor.phase = .idle)
    (content : Content) (groupsAuthoritative : Bool) :
    actor.step (.projectContent content groupsAuthoritative) =
      some (actor.projectContent content groupsAuthoritative) := by
  simp [step, idle]

theorem transition_of_submit (actor : ProjectionActor) (deliveryId : DeliveryId) :
    Transition actor (.submit deliveryId) (actor.submit deliveryId).1
      (actor.submit deliveryId).2 := by
  by_cases opened : actor.projection.acknowledgments.isOpen = true
  · by_cases accepts : actor.projection.acknowledgments.accepts deliveryId = true
    · rw [submit, AcknowledgmentState.submit_of_accepts opened accepts]
      exact Transition.submitAccepted opened accepts
    · have refused : actor.projection.acknowledgments.accepts deliveryId = false := by
        simpa using accepts
      rw [submit, AcknowledgmentState.submit_of_refused opened refused]
      exact Transition.submitIgnored opened fun _ => refused
  · have closed : actor.projection.acknowledgments.isOpen = false := by simpa using opened
    rw [submit, AcknowledgmentState.submit_of_closed closed]
    exact Transition.submitIgnored closed (by simp)

theorem transition_of_projectContent {actor : ProjectionActor} (content : Content)
    (groupsAuthoritative : Bool) (idle : actor.phase = .idle) :
    Transition actor (.projectContent content groupsAuthoritative)
      (actor.projectContent content groupsAuthoritative).1
      (actor.projectContent content groupsAuthoritative).2 := by
  unfold projectContent
  split
  · exact Transition.projectNothing idle
  · by_cases room : actor.projection.hasCapacity = true
    · by_cases known : projectionIdentity content ∈ actor.projection.identities.pending ∨
          projectionIdentity content ∈ actor.projection.identities.completed
      · rw [MessageProjection.track_of_known known]
        exact Transition.projectNothing idle
      · rw [not_or] at known
        rw [MessageProjection.track_of_new room known.1 known.2]
        exact Transition.projectTracked idle room known.1 known.2
    · rw [MessageProjection.track_of_full content (by simpa using room)]
      exact Transition.projectNothing idle

theorem transition_of_handled {actor : ProjectionActor} {deliveryId : DeliveryId}
    {content : Content} (disposition : ProjectionDisposition)
    (phase : actor.phase = .handling deliveryId content) :
    Transition actor (.handled disposition)
      (actor.handled deliveryId content disposition).1
      (actor.handled deliveryId content disposition).2 := by
  cases disposition with
  | awaitingAck => exact Transition.handledAwaiting phase
  | complete => exact Transition.handledComplete phase
  | retry => exact Transition.handledRetry phase

theorem transition_of_marked {actor : ProjectionActor} {deliveryId : DeliveryId}
    {content : Content} (result : StoreWrite)
    (phase : actor.phase = .marking deliveryId content) :
    Transition actor (.marked result) (actor.marked deliveryId content result).1
      (actor.marked deliveryId content result).2 := by
  cases result with
  | stored => exact Transition.markStored phase
  | failed error => exact Transition.markFailed phase

theorem transition_of_acknowledgeNext {actor : ProjectionActor} {batch : List DeliveryId}
    (phase : actor.phase = .acknowledging batch) :
    Transition actor .acknowledgeNext (actor.acknowledgeNext batch).1
      (actor.acknowledgeNext batch).2 := by
  cases batch with
  | nil =>
      by_cases draining : actor.isDraining = true
      · rw [acknowledgeNext, if_pos draining]
        exact Transition.drainAgain phase draining
      · rw [acknowledgeNext, if_neg draining]
        exact Transition.batchDone phase (by simpa using draining)
  | cons deliveryId remaining =>
      cases found : actor.projection.pending.lookup deliveryId with
      | none =>
          simp only [acknowledgeNext, found]
          exact Transition.acknowledgeUnknown phase found
      | some content =>
          simp only [acknowledgeNext, found]
          exact Transition.acknowledgePending phase found

theorem transition_of_acknowledged {actor : ProjectionActor} {deliveryId : DeliveryId}
    {content : Content} {remaining : List DeliveryId} (result : StoreWrite)
    (phase : actor.phase = .writing deliveryId content remaining) :
    Transition actor (.acknowledged result)
      (actor.acknowledged deliveryId content remaining result).1
      (actor.acknowledged deliveryId content remaining result).2 := by
  cases result with
  | stored => exact Transition.writeStored phase
  | failed error =>
      by_cases draining : actor.isDraining = true
      · rw [acknowledged, if_pos draining]
        exact Transition.writeAbandoned phase draining
      · rw [acknowledged, if_neg draining]
        exact Transition.writeDeferred phase (by simpa using draining)

theorem transition_of_step {actor next : ProjectionActor} {label : ActorLabel}
    {entries : List ActorEntry} (stepped : actor.step label = some (next, entries)) :
    Transition actor label next entries := by
  -- Every label but two names the phase it needs; the others are not enabled.
  cases label with
  | submit deliveryId =>
      have transition := actor.transition_of_submit deliveryId
      rwa [Option.some.inj stepped] at transition
  | projectContent content groupsAuthoritative =>
      cases phase : actor.phase <;> simp only [step, phase] at stepped
      case idle =>
        have transition := transition_of_projectContent content groupsAuthoritative phase
        rwa [Option.some.inj stepped] at transition
      all_goals cases stepped
  | handled disposition =>
      cases phase : actor.phase <;> simp only [step, phase] at stepped
      case handling deliveryId content =>
        have transition := transition_of_handled disposition phase
        rwa [Option.some.inj stepped] at transition
      all_goals cases stepped
  | marked result =>
      cases phase : actor.phase <;> simp only [step, phase] at stepped
      case marking deliveryId content =>
        have transition := transition_of_marked result phase
        rwa [Option.some.inj stepped] at transition
      all_goals cases stepped
  | processAcknowledgments =>
      cases phase : actor.phase <;> simp only [step, phase] at stepped
      case idle =>
        cases stepped
        exact Transition.takeBatch phase
      all_goals cases stepped
  | acknowledgeNext =>
      cases phase : actor.phase <;> simp only [step, phase] at stepped
      case acknowledging batch =>
        have transition := transition_of_acknowledgeNext phase
        rwa [Option.some.inj stepped] at transition
      all_goals cases stepped
  | acknowledged result =>
      cases phase : actor.phase <;> simp only [step, phase] at stepped
      case writing deliveryId content remaining =>
        have transition := transition_of_acknowledged result phase
        rwa [Option.some.inj stepped] at transition
      all_goals cases stepped
  | activateRetries =>
      cases phase : actor.phase <;> simp only [step, phase] at stepped
      case idle =>
        cases stepped
        rw [← phase]
        exact Transition.activateRetries phase
      all_goals cases stepped
  | shutdown =>
      rcases Option.ite_none_right_eq_some.mp stepped with ⟨enabled, same⟩
      cases same
      simp only [Bool.and_eq_true, Bool.not_eq_eq_eq_not, Bool.not_true] at enabled
      exact Transition.shutdown enabled.1 enabled.2
  | drain =>
      cases phase : actor.phase <;> simp only [step, phase] at stepped
      case stopping =>
        cases stepped
        exact Transition.drain phase
      all_goals cases stepped

end ProjectionActor

end SignalPurple
