import SignalPurple.Core.Projection.Ledger

/-! # Acknowledgments across shutdown

`take_ready` empties the ready queue before the writes of the batch are awaited. A
shutdown between two batches leaves every accepted id where the drain finds it; a
shutdown that drops a batch takes the rest of the batch with it.
-/

namespace SignalPurple

namespace ActorLabel

/-- The store write reported by the label, if any, succeeded. -/
def StoreSucceeds : ActorLabel → Prop
  | .marked (.failed _) | .acknowledged (.failed _) => False
  | _ => True

end ActorLabel

namespace ProjectionActor

variable {actor next : ProjectionActor} {history entries : List ActorEntry}

/-- Shutdown does not drop a batch of acknowledgments. -/
def ShutdownBetweenBatches (actor : ProjectionActor) (label : ActorLabel) : Prop :=
  label = .shutdown → inFlight actor.phase = []

def Orderly (actor : ProjectionActor) (label : ActorLabel) : Prop :=
  ShutdownBetweenBatches actor label ∧ label.StoreSucceeds

/-- Every accepted id is where a later round finds it. -/
structure Retained (actor : ProjectionActor) : Prop where
  located : ∀ id ∈ actor.projection.acknowledgments.accepted,
    id ∈ actor.projection.acknowledgments.ready ∨
    id ∈ actor.projection.acknowledgments.retry ∨ id ∈ inFlight actor.phase
  closed : actor.isDraining = true → actor.projection.acknowledgments.isOpen = false
  nothingDeferred : actor.isDraining = true → actor.projection.acknowledgments.retry = []
  drained : actor.phase = .finished →
    actor.isDraining = true ∧ actor.projection.acknowledgments.ready = []

theorem inFlight_takeBatch (actor : ProjectionActor) :
    inFlight actor.takeBatch.phase =
      (actor.projection.acknowledgments.takeReady acknowledgmentBatchSize).deliveryIds := by
  simp only [takeBatch]
  split
  next ended =>
    simp only [Bool.and_eq_true, List.isEmpty_iff] at ended
    exact ended.2.symm
  next => rfl

theorem draining_of_finished (finished : actor.takeBatch.phase = .finished) :
    actor.isDraining = true ∧
      (actor.projection.acknowledgments.takeReady acknowledgmentBatchSize).deliveryIds = [] := by
  simp only [takeBatch] at finished
  split at finished
  next ended =>
    simpa [List.isEmpty_iff] using ended
  next => cases finished

namespace Retained

theorem frame (retained : Retained actor)
    (sameAccepted : next.projection.acknowledgments.accepted =
      actor.projection.acknowledgments.accepted)
    (sameReady : next.projection.acknowledgments.ready =
      actor.projection.acknowledgments.ready)
    (sameRetry : next.projection.acknowledgments.retry =
      actor.projection.acknowledgments.retry)
    (sameOpen : next.projection.acknowledgments.isOpen =
      actor.projection.acknowledgments.isOpen)
    (sameDraining : next.isDraining = actor.isDraining)
    (batch : ∀ id ∈ inFlight actor.phase, id ∈ inFlight next.phase)
    (running : next.phase ≠ .finished) : Retained next := by
  constructor
  · intro id accepted
    rw [sameAccepted] at accepted
    rw [sameReady, sameRetry]
    rcases retained.located id accepted with ready | retry | flying
    · exact Or.inl ready
    · exact Or.inr (Or.inl retry)
    · exact Or.inr (Or.inr (batch id flying))
  · rw [sameOpen, sameDraining]
    exact retained.closed
  · rw [sameRetry, sameDraining]
    exact retained.nothingDeferred
  · intro finished
    exact absurd finished running

theorem unregister (deliveryId : DeliveryId) (retained : Retained actor)
    (unregistered : next.projection.acknowledgments =
      actor.projection.acknowledgments.unregister deliveryId)
    (sameDraining : next.isDraining = actor.isDraining)
    (batch : ∀ id ∈ inFlight actor.phase, id ≠ deliveryId → id ∈ inFlight next.phase)
    (running : next.phase ≠ .finished) : Retained next := by
  constructor
  · intro id accepted
    rw [unregistered] at accepted ⊢
    rcases Finset.mem_erase.mp accepted with ⟨different, before⟩
    simp only [AcknowledgmentState.unregister, List.mem_filter, decide_eq_true_eq]
    rcases retained.located id before with ready | retry | flying
    · exact Or.inl ⟨ready, different⟩
    · exact Or.inr (Or.inl ⟨retry, different⟩)
    · exact Or.inr (Or.inr (batch id flying different))
  · rw [unregistered, sameDraining]
    exact retained.closed
  · intro draining
    rw [sameDraining] at draining
    rw [unregistered]
    simp [AcknowledgmentState.unregister, retained.nothingDeferred draining]
  · intro finished
    exact absurd finished running

theorem batch {acknowledgments : AcknowledgmentState} (isDraining : Bool)
    (located : ∀ id ∈ acknowledgments.accepted,
      id ∈ acknowledgments.ready ∨ id ∈ acknowledgments.retry)
    (closed : isDraining = true → acknowledgments.isOpen = false)
    (nothingDeferred : isDraining = true → acknowledgments.retry = []) :
    Retained
      (takeBatch
        { actor with
          projection := actor.projection.withAcknowledgments acknowledgments, isDraining }) := by
  constructor
  · intro id accepted
    rw [inFlight_takeBatch]
    rcases located id accepted with ready | retry
    · rw [acknowledgments.takeReady_splits acknowledgmentBatchSize, List.mem_append] at ready
      rcases ready with taken | left
      · exact Or.inr (Or.inr taken)
      · exact Or.inl left
    · exact Or.inr (Or.inl retry)
  · exact closed
  · exact nothingDeferred
  · intro finished
    have ended := draining_of_finished finished
    exact ⟨ended.1, AcknowledgmentState.ready_of_takeReady_nil (by decide) ended.2⟩

theorem accept {deliveryId : DeliveryId} (retained : Retained actor)
    (opened : actor.projection.acknowledgments.isOpen = true) :
    Retained (actor.withInbox (actor.projection.acknowledgments.accept deliveryId)) := by
  have live : actor.isDraining ≠ true := by
    intro draining
    rw [retained.closed draining] at opened
    cases opened
  constructor
  · intro id accepted
    rcases Finset.mem_insert.mp accepted with rfl | before
    · exact Or.inl (List.mem_append_right _ (List.mem_singleton.mpr rfl))
    · rcases retained.located id before with ready | retry | flying
      · exact Or.inl (List.mem_append_left _ ready)
      · exact Or.inr (Or.inl retry)
      · exact Or.inr (Or.inr flying)
  · intro draining
    exact absurd draining live
  · intro draining
    exact absurd draining live
  · intro finished
    exact absurd (retained.drained finished).1 live

theorem defer {deliveryId : DeliveryId} {content : Content} {remaining : List DeliveryId}
    (retained : Retained actor) (tracking : Tracking actor history)
    (phase : actor.phase = .writing deliveryId content remaining)
    (live : actor.isDraining = false) :
    Retained
      { actor.withInbox (actor.projection.acknowledgments.deferRetry deliveryId) with
        phase := .acknowledging remaining } := by
  have registered : deliveryId ∈ actor.projection.acknowledgments.registered := by
    rcases tracking.represents with ⟨completions, represents⟩
    rw [represents.registered, ← AList.lookup_isSome,
      tracking.heldPending deliveryId content (by rw [phase]; rfl)]
    rfl
  constructor
  · intro id accepted
    have before : id ∈ actor.projection.acknowledgments.accepted := by
      simpa [withInbox, MessageProjection.withAcknowledgments] using accepted
    simp only [withInbox, MessageProjection.withAcknowledgments,
      AcknowledgmentState.ready_deferRetry, inFlight]
    rcases retained.located id before with ready | retry | flying
    · exact Or.inl ready
    · refine Or.inr (Or.inl ?_)
      unfold AcknowledgmentState.deferRetry
      split
      · exact List.mem_append_left _ retry
      · exact retry
    · rw [phase] at flying
      rcases List.mem_cons.mp flying with rfl | later
      · refine Or.inr (Or.inl ?_)
        simp [AcknowledgmentState.deferRetry, registered, before]
      · exact Or.inr (Or.inr later)
  · intro draining
    simp [withInbox, live] at draining
  · intro draining
    simp [withInbox, live] at draining
  · intro finished
    cases finished

theorem release {deliveryId : DeliveryId} {content : Content} (retained : Retained actor)
    (found : actor.projection.pending.lookup deliveryId = some content)
    (noBatch : inFlight actor.phase = []) : Retained (actor.release deliveryId .idle) := by
  refine retained.unregister deliveryId ?_ rfl ?_ (by simp [ProjectionActor.release])
  · rw [ProjectionActor.release, MessageProjection.release,
      MessageProjection.withdraw_of_pending found]
  · simp [noBatch]

theorem complete {deliveryId : DeliveryId} {content : Content} {phase : ActorPhase}
    (retained : Retained actor)
    (found : actor.projection.pending.lookup deliveryId = some content)
    (batch : ∀ id ∈ inFlight actor.phase, id ≠ deliveryId → id ∈ inFlight phase)
    (running : phase ≠ .finished) : Retained (actor.complete deliveryId phase) := by
  refine retained.unregister deliveryId ?_ rfl batch running
  rw [ProjectionActor.complete, MessageProjection.complete,
    MessageProjection.withdraw_of_pending found]

theorem step {label : ActorLabel} (retained : Retained actor)
    (tracking : Tracking actor history) (orderly : Orderly actor label)
    (stepped : actor.step label = some (next, entries)) : Retained next := by
  have heldNow := tracking.heldPending
  have queued : inFlight actor.phase = [] → ∀ id ∈ actor.projection.acknowledgments.accepted,
      id ∈ actor.projection.acknowledgments.ready ∨
      id ∈ actor.projection.acknowledgments.retry := by
    intro noBatch id accepted
    simpa [noBatch] using retained.located id accepted
  cases transition_of_step stepped with
  | submitAccepted opened => exact retained.accept opened
  | submitIgnored => exact retained
  | projectNothing => exact retained
  | projectTracked idle =>
      exact retained.frame rfl rfl rfl rfl rfl (by simp [idle, inFlight]) (by simp)
  | handledAwaiting phase =>
      exact retained.frame rfl rfl rfl rfl rfl (by simp [phase, inFlight]) (by simp)
  | handledRetry phase =>
      exact retained.release (heldNow _ _ (by rw [phase]; rfl)) (by rw [phase]; rfl)
  | handledComplete phase =>
      exact retained.frame rfl rfl rfl rfl rfl (by simp [phase, inFlight]) (by simp)
  | markStored phase =>
      exact retained.complete (heldNow _ _ (by rw [phase]; rfl)) (by simp [phase, inFlight])
        (by simp)
  | markFailed phase =>
      exact retained.release (heldNow _ _ (by rw [phase]; rfl)) (by rw [phase]; rfl)
  | takeBatch idle =>
      exact batch actor.isDraining (queued (by rw [idle]; rfl)) retained.closed
        retained.nothingDeferred
  | batchDone phase =>
      exact retained.frame rfl rfl rfl rfl rfl (by simp [phase, inFlight]) (by simp)
  | drainAgain phase =>
      exact batch actor.isDraining (queued (by rw [phase]; rfl)) retained.closed
        retained.nothingDeferred
  | acknowledgeUnknown phase absent =>
      refine retained.unregister _ rfl rfl ?_ (by simp)
      intro id flying different
      rw [phase] at flying
      exact (List.mem_cons.mp flying).resolve_left different
  | acknowledgePending phase =>
      exact retained.frame rfl rfl rfl rfl rfl (by simp [phase, inFlight]) (by simp)
  | writeStored phase =>
      refine retained.complete (heldNow _ _ (by rw [phase]; rfl)) ?_ (by simp)
      intro id flying different
      rw [phase] at flying
      exact (List.mem_cons.mp flying).resolve_left different
  | writeDeferred phase live => exact retained.defer tracking phase live
  | writeAbandoned => exact False.elim orderly.2
  | activateRetries idle =>
      constructor
      · intro id accepted
        exact Or.inl (List.mem_append.mpr (queued (by rw [idle]; rfl) id accepted))
      · exact retained.closed
      · exact fun _ => rfl
      · intro finished
        rw [withInbox, idle] at finished
        cases finished
  | shutdown =>
      have noBatch := orderly.1 rfl
      exact retained.frame rfl rfl rfl rfl rfl (by simp [noBatch]) (by simp)
  | drain phase =>
      have located : ∀ id ∈ actor.projection.acknowledgments.close.accepted,
          id ∈ actor.projection.acknowledgments.close.ready ∨
          id ∈ actor.projection.acknowledgments.close.retry := by
        intro id accepted
        exact Or.inl (List.mem_append.mpr (queued (by rw [phase]; rfl) id accepted))
      exact batch true located (fun _ => rfl) (fun _ => rfl)

end Retained

/-- The projection lets go of an id because its content was recorded, or because the
handler asked for another attempt. -/
def LetGo (history : List ActorEntry) (deliveryId : DeliveryId) : Prop :=
  (∃ content, .tracked deliveryId content ∈ history ∧ .marked content ∈ history) ∨
    .disposed deliveryId .retry ∈ history

theorem LetGo.append {deliveryId : DeliveryId} (letGo : LetGo history deliveryId)
    (entries : List ActorEntry) : LetGo (history ++ entries) deliveryId := by
  rcases letGo with ⟨content, tracked, marked⟩ | retry
  · exact Or.inl ⟨content, List.mem_append_left _ tracked, List.mem_append_left _ marked⟩
  · exact Or.inr (List.mem_append_left _ retry)

def Settled (history : List ActorEntry) : Prop :=
  ∀ id, .untracked id ∈ history → LetGo history id

namespace Settled

theorem append (settled : Settled history)
    (letGo : ∀ id, .untracked id ∈ entries → LetGo (history ++ entries) id) :
    Settled (history ++ entries) := by
  intro id member
  rcases List.mem_append.mp member with before | new
  · exact (settled id before).append entries
  · exact letGo id new

theorem recorded {deliveryId : DeliveryId} {content : Content} (settled : Settled history)
    (tracking : Tracking actor history)
    (isHeld : held actor.phase = some (deliveryId, content)) :
    Settled (history ++ [.marked content, .untracked deliveryId]) := by
  refine settled.append ?_
  intro id member
  have same : id = deliveryId := by simpa using member
  rw [same]
  have found := tracking.heldPending deliveryId content isHeld
  have tracked := ((tracking.current deliveryId content).mp found).1
  exact Or.inl ⟨content, List.mem_append_left _ tracked, by simp⟩

theorem step {label : ActorLabel} (settled : Settled history)
    (tracking : Tracking actor history) (stored : label.StoreSucceeds)
    (stepped : actor.step label = some (next, entries)) : Settled (history ++ entries) := by
  cases transition_of_step stepped with
  | @handledRetry deliveryId content phase =>
      refine settled.append ?_
      intro id member
      have same : id = deliveryId := by simpa using member
      rw [same]
      exact Or.inr (by simp)
  | markStored phase => exact settled.recorded tracking (by rw [phase]; rfl)
  | writeStored phase => exact settled.recorded tracking (by rw [phase]; rfl)
  | markFailed => exact False.elim stored
  | writeDeferred => exact False.elim stored
  | writeAbandoned => exact False.elim stored
  | _ => exact settled.append (by simp)

end Settled

structure Drainable (actor : ProjectionActor) (history : List ActorEntry) : Prop where
  accountable : Accountable actor history
  retained : Retained actor
  settled : Settled history

theorem Drainable.recorded {deliveryId : DeliveryId} {content : Content}
    (drainable : Drainable actor history) (finished : actor.phase = .finished)
    (tracked : .tracked deliveryId content ∈ history)
    (notRetried : .disposed deliveryId .retry ∉ history)
    (submitted : SubmittedSince history deliveryId) : .marked content ∈ history := by
  have accountable := drainable.accountable
  rcases drainable.retained.drained finished with ⟨draining, noneReady⟩
  have noneDeferred := drainable.retained.nothingDeferred draining
  -- Nothing is left in the inbox, so the projection has let go of the id.
  have notAccepted : deliveryId ∉ actor.projection.acknowledgments.accepted := by
    intro accepted
    simpa [noneReady, noneDeferred, finished, inFlight] using
      drainable.retained.located deliveryId accepted
  have untracked : .untracked deliveryId ∈ history :=
    (accountable.submitting.kept deliveryId submitted).resolve_left notAccepted
  rcases drainable.settled deliveryId untracked with
    ⟨other, otherTracked, marked⟩ | retried
  · rw [accountable.tracking.same_content tracked otherTracked]
    exact marked
  · exact absurd retried notRetried

def SoundDrain (actor : ProjectionActor) (history : List ActorEntry) : Prop :=
  (trackedIds history).length < 2 ^ 64 → Drainable actor history

theorem soundDrain_of_run {labels : List ActorLabel}
    (orderly : machine.StepsMeet Orderly machine.initial labels)
    (runs : machine.run labels = some (actor, history)) : SoundDrain actor history := by
  refine machine.run_invariant_of_steps ?_ ?_ orderly runs
  · intro few
    refine ⟨accountable_initial, ⟨?_, ?_, ?_, ?_⟩, ?_⟩
    all_goals simp [machine, Settled]
  · intro actor history label next entries sound orderly stepped few
    have fewBefore : (trackedIds history).length < 2 ^ 64 := by
      rw [trackedIds_append, List.length_append] at few
      omega
    have drainable := sound fewBefore
    have tracking := drainable.accountable.tracking
    exact ⟨drainable.accountable.step few stepped,
      drainable.retained.step tracking orderly stepped,
      drainable.settled.step tracking orderly.2 stepped⟩

/-- A submitted id is recorded once the drain is done, in every run that stores what it
writes and whose shutdown does not drop a batch. The handler must not have asked for
another attempt; it does that only before the UI has seen the id. -/
theorem run_drains_submissions {labels : List ActorLabel} {deliveryId : DeliveryId}
    {content : Content} (few : (trackedIds history).length < 2 ^ 64)
    (between : machine.StepsMeet ShutdownBetweenBatches machine.initial labels)
    (stored : ∀ label ∈ labels, label.StoreSucceeds)
    (runs : machine.run labels = some (actor, history)) (finished : actor.phase = .finished)
    (tracked : .tracked deliveryId content ∈ history)
    (notRetried : .disposed deliveryId .retry ∉ history)
    (submitted : SubmittedSince history deliveryId) : .marked content ∈ history := by
  have orderly : machine.StepsMeet Orderly machine.initial labels :=
    between.combine (fun _ _ => And.intro) stored
  exact (soundDrain_of_run orderly runs few).recorded finished tracked notRetried submitted

def twoAcknowledged : List ActorLabel :=
  [.projectContent (directContent 1) false, .handled .awaitingAck,
    .projectContent (directContent 2) false, .handled .awaitingAck, .submit 1, .submit 2]

def twoAcknowledgedHistory : List ActorEntry :=
  [.tracked 1 (directContent 1), .disposed 1 .awaitingAck, .tracked 2 (directContent 2),
    .disposed 2 .awaitingAck, .submitted 1 true, .submitted 2 true]

theorem submittedSince_twoAcknowledgedHistory : SubmittedSince twoAcknowledgedHistory 2 :=
  ⟨directContent 2, .cons _ (.cons _ (.cons_cons _ (.cons _ (.cons _ (.cons_cons _ .slnil)))))⟩

def idleShutdown : List ActorLabel :=
  [.shutdown, .drain, .acknowledgeNext, .acknowledged .stored, .acknowledgeNext,
    .acknowledged .stored, .acknowledgeNext]

theorem run_drains_submissions_after_idle_shutdown :
    ∃ actor history, machine.run (twoAcknowledged ++ idleShutdown) = some (actor, history) ∧
      actor.phase = .finished ∧ .marked (directContent 2) ∈ history := by
  have reaches : ∃ actor, machine.run (twoAcknowledged ++ idleShutdown) =
      some (actor, twoAcknowledgedHistory ++ [.markCalled (directContent 1),
        .marked (directContent 1), .untracked 1, .markCalled (directContent 2),
        .marked (directContent 2), .untracked 2]) ∧ actor.phase = .finished :=
    ⟨_, rfl, rfl⟩
  rcases reaches with ⟨actor, runs, finished⟩
  have between : machine.StepsMeet ShutdownBetweenBatches machine.initial
      (twoAcknowledged ++ idleShutdown) := by
    refine machine.stepsMeet_append (machine.stepsMeet_of_forall ?_) ?_
    · simp [twoAcknowledged, ShutdownBetweenBatches]
    · intro middle entries reached
      cases reached
      refine ⟨fun _ => rfl, fun next entries _ => machine.stepsMeet_of_forall ?_⟩
      simp [ShutdownBetweenBatches]
  have stored : ∀ label ∈ twoAcknowledged ++ idleShutdown, label.StoreSucceeds := by
    simp [twoAcknowledged, idleShutdown, ActorLabel.StoreSucceeds]
  have tracked : ActorEntry.tracked 2 (directContent 2) ∈ twoAcknowledgedHistory := by
    decide +kernel
  refine ⟨actor, _, runs, finished, ?_⟩
  exact run_drains_submissions (by decide +kernel) between stored runs finished
    (List.mem_append_left _ tracked) (by decide +kernel)
    (submittedSince_twoAcknowledgedHistory.append _)

/-- Shutdown while the write of the first message of a batch is awaited. -/
def midBatchShutdown : List ActorLabel :=
  [.processAcknowledgments, .acknowledgeNext, .shutdown, .drain]

/-- The second message of the batch is lost to the drain, which finds an empty inbox. -/
theorem shutdown_drops_taken_batch :
    ∃ actor history, machine.run (twoAcknowledged ++ midBatchShutdown) = some (actor, history) ∧
      (∀ label ∈ twoAcknowledged ++ midBatchShutdown, label.StoreSucceeds) ∧
      actor.phase = .finished ∧ .tracked 2 (directContent 2) ∈ history ∧
      .disposed 2 .awaitingAck ∈ history ∧ SubmittedSince history 2 ∧
      .markCalled (directContent 2) ∉ history ∧ .marked (directContent 2) ∉ history := by
  have stored : ∀ label ∈ twoAcknowledged ++ midBatchShutdown, label.StoreSucceeds := by
    simp [twoAcknowledged, midBatchShutdown, ActorLabel.StoreSucceeds]
  have reaches : ∃ actor, machine.run (twoAcknowledged ++ midBatchShutdown) =
        some (actor, twoAcknowledgedHistory ++ [.markCalled (directContent 1)]) ∧
      actor.phase = .finished := ⟨_, rfl, rfl⟩
  rcases reaches with ⟨actor, runs, finished⟩
  exact ⟨actor, _, runs, stored, finished, by decide +kernel, by decide +kernel,
    submittedSince_twoAcknowledgedHistory.append _, by decide +kernel, by decide +kernel⟩

end ProjectionActor

end SignalPurple
