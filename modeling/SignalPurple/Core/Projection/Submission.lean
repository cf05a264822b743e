import SignalPurple.Core.Projection.Tracking

/-! # Dispositions and submissions

What the history of the actor says about the inbox: an id is handled once, an id that is
accepted, queued or in a batch was submitted after it was tracked, and a submission
stays accepted until the projection lets go of the id.
-/

namespace SignalPurple.ProjectionActor

/-! ## Dispositions -/

/-- Each id is handled once, and not yet while its handler runs. -/
structure Disposing (actor : ProjectionActor) (history : List ActorEntry) : Prop where
  undisposed : ∀ id content, actor.phase = .handling id content →
    ∀ disposition, .disposed id disposition ∉ history
  once : ∀ id one other, .disposed id one ∈ history → .disposed id other ∈ history →
    one = other
  issued : ∀ id disposition, .disposed id disposition ∈ history → id ∈ trackedIds history

namespace Disposing

variable {actor next : ProjectionActor} {history entries : List ActorEntry}

theorem frame (disposing : Disposing actor history)
    (absent : ∀ id disposition, .disposed id disposition ∉ entries)
    (samePhase : ∀ id content, next.phase = .handling id content →
      actor.phase = .handling id content ∨ id ∉ trackedIds history) :
    Disposing next (history ++ entries) := by
  have earlier : ∀ id disposition, .disposed id disposition ∈ history ++ entries →
      .disposed id disposition ∈ history := by
    intro id disposition member
    rcases List.mem_append.mp member with before | new
    · exact before
    · exact absurd new (absent id disposition)
  constructor
  · intro id content phase disposition member
    have before := earlier id disposition member
    rcases samePhase id content phase with same | fresh
    · exact disposing.undisposed id content same disposition before
    · exact fresh (disposing.issued id disposition before)
  · intro id one other first second
    exact disposing.once id one other (earlier id one first) (earlier id other second)
  · intro id disposition member
    rw [trackedIds_append]
    exact List.mem_append_left _ (disposing.issued id disposition (earlier id disposition member))

theorem frame_of_held (disposing : Disposing actor history)
    (absent : ∀ id disposition, .disposed id disposition ∉ entries)
    (noneHeld : held next.phase = none) : Disposing next (history ++ entries) := by
  refine disposing.frame absent ?_
  intro id content phase
  rw [phase] at noneHeld
  cases noneHeld

theorem dispose {deliveryId : DeliveryId} {content : Content}
    (disposition : ProjectionDisposition) (disposing : Disposing actor history)
    (tracking : Tracking actor history) (phase : actor.phase = .handling deliveryId content)
    (only : ∀ id other, .disposed id other ∈ entries → id = deliveryId ∧ other = disposition)
    (left : ∀ id content, next.phase ≠ .handling id content) :
    Disposing next (history ++ entries) := by
  have new : ∀ id other, .disposed id other ∈ history ++ entries →
      .disposed id other ∈ history ∨ (id = deliveryId ∧ other = disposition) := by
    intro id other member
    exact (List.mem_append.mp member).imp_right (only id other)
  have unhandled := disposing.undisposed deliveryId content phase
  constructor
  · intro id content handling
    exact absurd handling (left id content)
  · intro id one other first second
    rcases new id one first with before | ⟨same, rfl⟩
    · rcases new id other second with earlier | ⟨rfl, -⟩
      · exact disposing.once id one other before earlier
      · exact absurd before (unhandled one)
    · rcases new id other second with earlier | ⟨-, rfl⟩
      · rw [same] at earlier
        exact absurd earlier (unhandled other)
      · rfl
  · intro id other member
    rw [trackedIds_append]
    apply List.mem_append_left
    rcases new id other member with before | ⟨rfl, -⟩
    · exact disposing.issued id other before
    · have found := tracking.heldPending id content (by rw [phase]; rfl)
      exact mem_trackedIds ((tracking.current id content).mp found).1

theorem step {label : ActorLabel} (disposing : Disposing actor history)
    (tracking : Tracking actor history)
    (few : (trackedIds (history ++ entries)).length < 2 ^ 64)
    (stepped : actor.step label = some (next, entries)) :
    Disposing next (history ++ entries) := by
  have same : ∀ id content, actor.phase = .handling id content →
      actor.phase = .handling id content ∨ id ∉ trackedIds history := fun _ _ => Or.inl
  have unreported : ∀ message error id disposition,
      .disposed id disposition ∉ reportStoreError message error := by
    intro message error id disposition member
    rcases emitted_of_reportStoreError member with ⟨event, equal⟩
    cases equal
  cases transition_of_step stepped with
  | submitAccepted => exact disposing.frame (by simp) same
  | submitIgnored => exact disposing.frame (by simp) same
  | projectNothing => exact disposing.frame (by simp) same
  | projectTracked =>
      rcases tracking.represents with ⟨completions, represents⟩
      rw [trackedIds_append, List.length_append] at few
      refine disposing.frame (by simp) ?_
      intro id content phase
      cases phase
      exact Or.inr (represents.issueDeliveryId_notMem few)
  | handledAwaiting phase =>
      exact disposing.dispose .awaitingAck tracking phase (by simp) (by simp)
  | handledRetry phase =>
      exact disposing.dispose .retry tracking phase (by simp) (by simp [ProjectionActor.release])
  | handledComplete phase =>
      exact disposing.dispose .complete tracking phase (by simp) (by simp)
  | markStored => exact disposing.frame_of_held (by simp) rfl
  | markFailed => exact disposing.frame_of_held (by simp [unreported]) rfl
  | takeBatch => exact disposing.frame_of_held (by simp) (held_takeBatch _)
  | batchDone => exact disposing.frame_of_held (by simp) rfl
  | drainAgain => exact disposing.frame_of_held (by simp) (held_takeBatch _)
  | acknowledgeUnknown => exact disposing.frame_of_held (by simp) rfl
  | acknowledgePending => exact disposing.frame (by simp) (by simp)
  | writeStored => exact disposing.frame_of_held (by simp) rfl
  | writeDeferred => exact disposing.frame_of_held (unreported _ _) rfl
  | writeAbandoned => exact disposing.frame_of_held (unreported _ _) rfl
  | activateRetries => exact disposing.frame (by simp) same
  | shutdown => exact disposing.frame_of_held (by simp) rfl
  | drain => exact disposing.frame_of_held (by simp) (held_takeBatch _)

end Disposing

/-! ## Submissions -/

/-- The UI submitted the id to an open inbox after it was issued. -/
def SubmittedSince (history : List ActorEntry) (deliveryId : DeliveryId) : Prop :=
  ∃ content, [.tracked deliveryId content, .submitted deliveryId true].Sublist history

theorem SubmittedSince.append {history : List ActorEntry} {deliveryId : DeliveryId}
    (submitted : SubmittedSince history deliveryId) (entries : List ActorEntry) :
    SubmittedSince (history ++ entries) deliveryId := by
  rcases submitted with ⟨content, ordered⟩
  exact ⟨content, ordered.trans (List.sublist_append_left _ _)⟩

theorem SubmittedSince.tracked {history : List ActorEntry} {deliveryId : DeliveryId}
    (submitted : SubmittedSince history deliveryId) :
    ∃ content, .tracked deliveryId content ∈ history := by
  rcases submitted with ⟨content, ordered⟩
  exact ⟨content, ordered.subset (by simp)⟩

/-- No step both issues an id and reports its submission, so a new pair straddles. -/
theorem submittedSince_append {history entries : List ActorEntry} {deliveryId : DeliveryId}
    (submitted : SubmittedSince (history ++ entries) deliveryId)
    (apart : (∀ content, .tracked deliveryId content ∉ entries) ∨
      .submitted deliveryId true ∉ entries) :
    SubmittedSince history deliveryId ∨
      ((∃ content, .tracked deliveryId content ∈ history) ∧
        .submitted deliveryId true ∈ entries) := by
  rcases submitted with ⟨content, ordered⟩
  rcases List.sublist_append_iff.mp ordered with ⟨before, after, split, inHistory, inEntries⟩
  match before, split with
  | [], split =>
      have both := inEntries.subset
      rw [← show _ = after from split] at both
      rcases apart with noTracked | noSubmitted
      · exact absurd (both (by simp)) (noTracked content)
      · exact absurd (both (by simp)) noSubmitted
  | [first], split =>
      simp only [List.singleton_append, List.cons.injEq] at split
      rcases split with ⟨rfl, rfl⟩
      exact Or.inr ⟨⟨content, inHistory.subset (by simp)⟩, inEntries.subset (by simp)⟩
  | first :: second :: rest, split =>
      simp only [List.cons_append, List.cons.injEq] at split
      rcases split with ⟨rfl, rfl, remaining⟩
      have none : rest = [] := (List.append_eq_nil_iff.mp remaining.symm).1
      rw [none] at inHistory
      exact Or.inl ⟨content, inHistory⟩

def inFlight : ActorPhase → List DeliveryId
  | .acknowledging remaining => remaining
  | .writing deliveryId _ remaining => deliveryId :: remaining
  | _ => []

/-- The inbox or the current batch knows the id as submitted. -/
def Knows (actor : ProjectionActor) (deliveryId : DeliveryId) : Prop :=
  deliveryId ∈ actor.projection.acknowledgments.accepted ∨
  deliveryId ∈ actor.projection.acknowledgments.ready ∨
  deliveryId ∈ actor.projection.acknowledgments.retry ∨
  deliveryId ∈ inFlight actor.phase

structure Submitting (actor : ProjectionActor) (history : List ActorEntry) : Prop where
  since : ∀ id, actor.Knows id → SubmittedSince history id
  kept : ∀ id, SubmittedSince history id →
    id ∈ actor.projection.acknowledgments.accepted ∨ .untracked id ∈ history

namespace Submitting

variable {actor next : ProjectionActor} {history entries : List ActorEntry}

theorem frame (submitting : Submitting actor history)
    (noneSubmitted : ∀ id, .submitted id true ∉ entries)
    (known : ∀ id, next.Knows id → actor.Knows id)
    (stays : ∀ id ∈ actor.projection.acknowledgments.accepted,
      id ∈ next.projection.acknowledgments.accepted ∨ .untracked id ∈ history ++ entries) :
    Submitting next (history ++ entries) := by
  constructor
  · intro id knows
    exact (submitting.since id (known id knows)).append entries
  · intro id submitted
    rcases submittedSince_append submitted (Or.inr (noneSubmitted id)) with
      earlier | ⟨-, new⟩
    · rcases submitting.kept id earlier with accepted | untracked
      · exact stays id accepted
      · exact Or.inr (List.mem_append_left _ untracked)
    · exact absurd new (noneSubmitted id)

theorem move (submitting : Submitting actor history)
    (noneSubmitted : ∀ id, .submitted id true ∉ entries)
    (sameAccepted : next.projection.acknowledgments.accepted =
      actor.projection.acknowledgments.accepted)
    (moved : ∀ id, id ∈ next.projection.acknowledgments.ready ∨
        id ∈ next.projection.acknowledgments.retry ∨ id ∈ inFlight next.phase →
      actor.Knows id) :
    Submitting next (history ++ entries) := by
  refine submitting.frame noneSubmitted ?_ ?_
  · intro id knows
    rcases knows with accepted | queued
    · rw [sameAccepted] at accepted
      exact Or.inl accepted
    · exact moved id queued
  · intro id accepted
    rw [sameAccepted]
    exact Or.inl accepted

theorem unregister {deliveryId : DeliveryId} (submitting : Submitting actor history)
    (noneSubmitted : ∀ id, .submitted id true ∉ entries)
    (unregistered : next.projection.acknowledgments =
      actor.projection.acknowledgments.unregister deliveryId)
    (batch : ∀ id ∈ inFlight next.phase, id ∈ inFlight actor.phase)
    (untracked : deliveryId ∈ actor.projection.acknowledgments.accepted →
      .untracked deliveryId ∈ history ++ entries) :
    Submitting next (history ++ entries) := by
  refine submitting.frame noneSubmitted ?_ ?_
  · intro id knows
    simp only [Knows, unregistered, AcknowledgmentState.unregister, Finset.mem_erase,
      List.mem_filter] at knows
    rcases knows with accepted | ready | retry | flying
    · exact Or.inl accepted.2
    · exact Or.inr (Or.inl ready.1)
    · exact Or.inr (Or.inr (Or.inl retry.1))
    · exact Or.inr (Or.inr (Or.inr (batch id flying)))
  · intro id accepted
    by_cases same : id = deliveryId
    · subst same
      exact Or.inr (untracked accepted)
    · rw [unregistered]
      exact Or.inl (Finset.mem_erase.mpr ⟨same, accepted⟩)

theorem batch {acknowledgments : AcknowledgmentState} (submitting : Submitting actor history)
    (sameAccepted : acknowledgments.accepted = actor.projection.acknowledgments.accepted)
    (moved : ∀ id, id ∈ acknowledgments.ready ∨ id ∈ acknowledgments.retry → actor.Knows id)
    (isDraining : Bool) :
    Submitting
      (takeBatch
        { actor with
          projection := actor.projection.withAcknowledgments acknowledgments, isDraining })
      (history ++ []) := by
  refine submitting.move (by simp) sameAccepted ?_
  intro id queued
  rcases queued with ready | retry | flying
  · exact moved id (Or.inl (List.mem_of_mem_drop ready))
  · exact moved id (Or.inr retry)
  · simp only [takeBatch] at flying
    split at flying
    · cases flying
    · exact moved id (Or.inl (List.mem_of_mem_take flying))

theorem accept {deliveryId : DeliveryId} (submitting : Submitting actor history)
    (tracking : Tracking actor history)
    (accepts : actor.projection.acknowledgments.accepts deliveryId = true) :
    Submitting (actor.withInbox (actor.projection.acknowledgments.accept deliveryId))
      (history ++ [.submitted deliveryId true]) := by
  simp only [AcknowledgmentState.accepts, Bool.and_eq_true, decide_eq_true_eq] at accepts
  have submitted : SubmittedSince (history ++ [.submitted deliveryId true]) deliveryId := by
    rcases tracking.represents with ⟨completions, represents⟩
    have pending := (represents.registered deliveryId).mp accepts.1
    rcases Option.isSome_iff_exists.mp (AList.lookup_isSome.mpr pending) with ⟨content, found⟩
    have tracked := ((tracking.current deliveryId content).mp found).1
    exact ⟨content, (List.singleton_sublist.mpr tracked).append (List.Sublist.refl _)⟩
  constructor
  · intro id knows
    by_cases same : id = deliveryId
    · rw [same]
      exact submitted
    · refine (submitting.since id ?_).append _
      simpa [Knows, withInbox, MessageProjection.withAcknowledgments,
        AcknowledgmentState.accept, same] using knows
  · intro id since
    by_cases same : id = deliveryId
    · exact Or.inl (Finset.mem_insert.mpr (Or.inl same))
    · have earlier : SubmittedSince history id := by
        rcases submittedSince_append since (Or.inl (by simp)) with before | ⟨-, new⟩
        · exact before
        · simp [same] at new
      rcases submitting.kept id earlier with accepted | untracked
      · exact Or.inl (Finset.mem_insert_of_mem accepted)
      · exact Or.inr (List.mem_append_left _ untracked)

theorem untracked_of_absent {id : DeliveryId} {content : Content}
    (tracking : Tracking actor history) (tracked : .tracked id content ∈ history)
    (absent : actor.projection.pending.lookup id = none) : .untracked id ∈ history := by
  by_contra current
  have found := (tracking.current id content).mpr ⟨tracked, current⟩
  rw [absent] at found
  cases found

theorem ignore {deliveryId : DeliveryId} {returned : Bool}
    (submitting : Submitting actor history) (tracking : Tracking actor history)
    (refused : returned = true →
      actor.projection.acknowledgments.accepts deliveryId = false) :
    Submitting actor (history ++ [.submitted deliveryId returned]) := by
  constructor
  · intro id knows
    exact (submitting.since id knows).append _
  · intro id since
    rcases submittedSince_append since (Or.inl (by simp)) with earlier | ⟨⟨content, tracked⟩, new⟩
    · rcases submitting.kept id earlier with accepted | untracked
      · exact Or.inl accepted
      · exact Or.inr (List.mem_append_left _ untracked)
    · simp only [List.mem_singleton, ActorEntry.submitted.injEq] at new
      rcases new with ⟨rfl, isTrue⟩
      have notAccepts := refused isTrue.symm
      by_cases accepted : id ∈ actor.projection.acknowledgments.accepted
      · exact Or.inl accepted
      · have unregistered : id ∉ actor.projection.acknowledgments.registered := by
          simpa [AcknowledgmentState.accepts, accepted] using notAccepts
        rcases tracking.represents with ⟨completions, represents⟩
        rw [represents.registered, ← AList.lookup_isSome, Option.not_isSome_iff_eq_none]
          at unregistered
        exact Or.inr (List.mem_append_left _
          (untracked_of_absent tracking tracked unregistered))

theorem release {deliveryId : DeliveryId} {content : Content}
    (submitting : Submitting actor history)
    (found : actor.projection.pending.lookup deliveryId = some content)
    (noneSubmitted : ∀ id, .submitted id true ∉ entries)
    (untracked : .untracked deliveryId ∈ entries) :
    Submitting (actor.release deliveryId .idle) (history ++ entries) := by
  refine submitting.unregister noneSubmitted ?_ (by simp [ProjectionActor.release, inFlight])
    fun _ => List.mem_append_right _ untracked
  rw [ProjectionActor.release, MessageProjection.release,
    MessageProjection.withdraw_of_pending found]

theorem complete {deliveryId : DeliveryId} {content : Content} {phase : ActorPhase}
    (submitting : Submitting actor history)
    (found : actor.projection.pending.lookup deliveryId = some content)
    (noneSubmitted : ∀ id, .submitted id true ∉ entries)
    (batch : ∀ id ∈ inFlight phase, id ∈ inFlight actor.phase)
    (untracked : .untracked deliveryId ∈ entries) :
    Submitting (actor.complete deliveryId phase) (history ++ entries) := by
  refine submitting.unregister noneSubmitted ?_ batch
    fun _ => List.mem_append_right _ untracked
  rw [ProjectionActor.complete, MessageProjection.complete,
    MessageProjection.withdraw_of_pending found]

theorem step {label : ActorLabel} (submitting : Submitting actor history)
    (tracking : Tracking actor history)
    (stepped : actor.step label = some (next, entries)) :
    Submitting next (history ++ entries) := by
  have heldNow := tracking.heldPending
  have unreported : ∀ message error id,
      .submitted id true ∉ reportStoreError message error := by
    intro message error id member
    rcases emitted_of_reportStoreError member with ⟨event, equal⟩
    cases equal
  have queued : ∀ id, id ∈ actor.projection.acknowledgments.ready ∨
      id ∈ actor.projection.acknowledgments.retry → actor.Knows id := by
    intro id member
    rcases member with ready | retry
    · exact Or.inr (Or.inl ready)
    · exact Or.inr (Or.inr (Or.inl retry))
  have queuedOnly : ∀ id, id ∈ actor.projection.acknowledgments.ready ∨
      id ∈ actor.projection.acknowledgments.retry ∨ id ∈ ([] : List DeliveryId) →
        actor.Knows id := by
    simpa using queued
  cases transition_of_step stepped with
  | submitAccepted opened accepts => exact submitting.accept tracking accepts
  | submitIgnored isOpen refused => exact submitting.ignore tracking refused
  | projectNothing => exact submitting.move (by simp) rfl fun _ => Or.inr
  | projectTracked => exact submitting.move (by simp) rfl queuedOnly
  | handledAwaiting => exact submitting.move (by simp) rfl queuedOnly
  | handledRetry phase =>
      exact submitting.release (heldNow _ _ (by rw [phase]; rfl)) (by simp) (by simp)
  | handledComplete => exact submitting.move (by simp) rfl queuedOnly
  | markStored phase =>
      exact submitting.complete (heldNow _ _ (by rw [phase]; rfl)) (by simp)
        (by simp [inFlight]) (by simp)
  | markFailed phase =>
      exact submitting.release (heldNow _ _ (by rw [phase]; rfl)) (by simp [unreported])
        (by simp)
  | takeBatch => exact submitting.batch rfl queued _
  | batchDone => exact submitting.move (by simp) rfl queuedOnly
  | drainAgain => exact submitting.batch rfl queued _
  | @acknowledgeUnknown deliveryId remaining phase absent =>
      refine submitting.unregister (by simp) rfl ?_ ?_
      · intro id member
        rw [phase]
        exact List.mem_cons_of_mem _ member
      · intro accepted
        rcases (submitting.since deliveryId (Or.inl accepted)).tracked with ⟨content, tracked⟩
        rw [List.append_nil]
        exact untracked_of_absent tracking tracked absent
  | acknowledgePending phase =>
      refine submitting.move (by simp) rfl ?_
      simp only [Knows, phase]
      exact fun _ => Or.inr
  | writeStored phase =>
      refine submitting.complete (heldNow _ _ (by rw [phase]; rfl)) (by simp) ?_ (by simp)
      intro id member
      rw [phase]
      exact List.mem_cons_of_mem _ member
  | @writeDeferred deliveryId content remaining error phase live =>
      refine submitting.move (unreported _ _) (AcknowledgmentState.accepted_deferRetry _ _) ?_
      intro id member
      simp only [withInbox, MessageProjection.withAcknowledgments,
        AcknowledgmentState.ready_deferRetry] at member
      simp only [Knows, phase, inFlight]
      rcases member with ready | retry | flying
      · exact Or.inr (Or.inl ready)
      · rcases AcknowledgmentState.mem_retry_deferRetry retry with earlier | rfl
        · exact Or.inr (Or.inr (Or.inl earlier))
        · exact Or.inr (Or.inr (Or.inr (List.mem_cons_self)))
      · exact Or.inr (Or.inr (Or.inr (List.mem_cons_of_mem _ flying)))
  | writeAbandoned phase =>
      refine submitting.move (unreported _ _) rfl ?_
      intro id member
      simp only [Knows, phase, inFlight]
      rcases member with ready | retry | flying
      · exact Or.inr (Or.inl ready)
      · exact Or.inr (Or.inr (Or.inl retry))
      · exact Or.inr (Or.inr (Or.inr (List.mem_cons_of_mem _ flying)))
  | activateRetries =>
      refine submitting.move (by simp) rfl ?_
      intro id member
      rcases member with ready | retry | flying
      · exact queued id (List.mem_append.mp ready)
      · cases retry
      · exact Or.inr (Or.inr (Or.inr flying))
  | shutdown => exact submitting.move (by simp) rfl queuedOnly
  | drain =>
      have sameAccepted : actor.projection.acknowledgments.close.accepted =
          actor.projection.acknowledgments.accepted := rfl
      have moved : ∀ id, id ∈ actor.projection.acknowledgments.close.ready ∨
          id ∈ actor.projection.acknowledgments.close.retry → actor.Knows id := by
        intro id member
        rcases member with ready | retry
        · exact queued id (List.mem_append.mp ready)
        · cases retry
      exact submitting.batch sameAccepted moved true

end Submitting

end SignalPurple.ProjectionActor
