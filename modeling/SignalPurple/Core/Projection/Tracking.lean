import SignalPurple.Core.Projection.Actor
import SignalPurple.Core.Projection.Representation
import SignalPurple.Foundation.History

/-! # What the actor's history says about its projection

A content is pending under a delivery id exactly when the history tracked it under that
id and did not untrack the id since. Ids are never issued twice, so this needs no order.
-/

namespace SignalPurple

namespace ActorEntry

/-- The entry starts or ends the tracking of a content. -/
def changesTracking : ActorEntry → Bool
  | .tracked _ _ | .untracked _ => true
  | _ => false

end ActorEntry

namespace ProjectionActor

def trackedIds (history : List ActorEntry) : List DeliveryId :=
  history.filterMap fun
    | .tracked deliveryId _ => some deliveryId
    | _ => none

/-- `track` gave the content this id, and the projection has not let go of it since. -/
def Tracked (history : List ActorEntry) (deliveryId : DeliveryId) (content : Content) :
    Prop :=
  .tracked deliveryId content ∈ history ∧ .untracked deliveryId ∉ history

def held : ActorPhase → Option (DeliveryId × Content)
  | .handling deliveryId content => some (deliveryId, content)
  | .marking deliveryId content => some (deliveryId, content)
  | .writing deliveryId content _ => some (deliveryId, content)
  | _ => none

@[simp] theorem trackedIds_append (before after : List ActorEntry) :
    trackedIds (before ++ after) = trackedIds before ++ trackedIds after :=
  List.filterMap_append

theorem mem_trackedIds {history : List ActorEntry} {deliveryId : DeliveryId}
    {content : Content} (member : .tracked deliveryId content ∈ history) :
    deliveryId ∈ trackedIds history :=
  List.mem_filterMap.mpr ⟨_, member, rfl⟩

theorem trackedIds_of_quiet {entries : List ActorEntry}
    (quiet : ∀ entry ∈ entries, entry.changesTracking = false) : trackedIds entries = [] := by
  apply List.filterMap_eq_nil_iff.mpr
  intro entry member
  cases entry with
  | tracked => exact absurd (quiet _ member) (by simp [ActorEntry.changesTracking])
  | _ => rfl

theorem emitted_of_reportStoreError {message : String} {error : StoreError}
    {entry : ActorEntry} (member : entry ∈ reportStoreError message error) :
    ∃ event, entry = .emitted event := by
  rcases List.mem_map.mp member with ⟨event, -, same⟩
  exact ⟨event, same.symm⟩

theorem quiet_reportStoreError (message : String) (error : StoreError) :
    ∀ entry ∈ reportStoreError message error, entry.changesTracking = false := by
  intro entry member
  rcases emitted_of_reportStoreError member with ⟨event, rfl⟩
  rfl

@[simp] theorem held_takeBatch (actor : ProjectionActor) : held actor.takeBatch.phase = none := by
  simp only [takeBatch]
  split <;> rfl

structure Tracking (actor : ProjectionActor) (history : List ActorEntry) : Prop where
  represents : ∃ completions, actor.projection.Represents (trackedIds history) completions
  current : ∀ id content,
    actor.projection.pending.lookup id = some content ↔ Tracked history id content
  untrackedIssued : ∀ id, .untracked id ∈ history → id ∈ trackedIds history
  heldPending : ∀ id content, held actor.phase = some (id, content) →
    actor.projection.pending.lookup id = some content

namespace Tracking

variable {actor next : ProjectionActor} {history entries : List ActorEntry}

theorem initial : Tracking {} [] where
  represents := ⟨[], MessageProjection.Represents.initial⟩
  current := by simp [Tracked]
  untrackedIssued := by simp
  heldPending := by simp [held]

theorem same_content {id : DeliveryId} {one other : Content} (tracking : Tracking actor history)
    (oneTracked : .tracked id one ∈ history) (otherTracked : .tracked id other ∈ history) :
    one = other := by
  rcases tracking.represents with ⟨completions, represents⟩
  have same := History.eq_of_same_key represents.issuedDistinct oneTracked otherTracked rfl rfl
  cases same
  rfl

theorem frame (tracking : Tracking actor history)
    (represents : ∀ completions,
      actor.projection.Represents (trackedIds history) completions →
        next.projection.Represents (trackedIds history) completions)
    (samePending : next.projection.pending = actor.projection.pending)
    (quiet : ∀ entry ∈ entries, entry.changesTracking = false)
    (heldPending : ∀ id content, held next.phase = some (id, content) →
      actor.projection.pending.lookup id = some content) :
    Tracking next (history ++ entries) := by
  have noneTracked := trackedIds_of_quiet quiet
  constructor
  case represents =>
    rcases tracking.represents with ⟨completions, before⟩
    rw [trackedIds_append, noneTracked, List.append_nil]
    exact ⟨completions, represents completions before⟩
  case current =>
    intro id content
    rw [samePending, tracking.current]
    have noTracked : .tracked id content ∉ entries := fun member => by
      simpa [ActorEntry.changesTracking] using quiet _ member
    have noUntracked : .untracked id ∉ entries := fun member => by
      simpa [ActorEntry.changesTracking] using quiet _ member
    simp [Tracked, noTracked, noUntracked]
  case untrackedIssued =>
    intro id member
    rw [trackedIds_append, noneTracked, List.append_nil]
    rcases List.mem_append.mp member with earlier | new
    · exact tracking.untrackedIssued id earlier
    · simpa [ActorEntry.changesTracking] using quiet _ new
  case heldPending =>
    intro id content isHeld
    rw [samePending]
    exact heldPending id content isHeld

theorem track {content : Content} (tracking : Tracking actor history)
    (few : (trackedIds history).length + 1 < 2 ^ 64)
    (room : actor.projection.hasCapacity = true)
    (notPending : projectionIdentity content ∉ actor.projection.identities.pending)
    (notCompleted : projectionIdentity content ∉ actor.projection.identities.completed) :
    Tracking
      { actor with
        projection := actor.projection.tracked content
        phase := .handling actor.projection.issueDeliveryId content }
      (history ++ [.tracked actor.projection.issueDeliveryId content]) := by
  rcases tracking.represents with ⟨completions, represents⟩
  have fresh := represents.issueDeliveryId_notMem few
  have found : (actor.projection.tracked content).pending.lookup
      actor.projection.issueDeliveryId = some content := AList.lookup_insert _
  constructor
  case represents =>
    refine ⟨completions, ?_⟩
    rw [trackedIds_append]
    exact represents.tracked few room notPending notCompleted
  case current =>
    intro id other
    by_cases same : id = actor.projection.issueDeliveryId
    · subst same
      have neverTracked : .tracked actor.projection.issueDeliveryId other ∉ history :=
        fun member => fresh (mem_trackedIds member)
      have neverUntracked : .untracked actor.projection.issueDeliveryId ∉ history :=
        fun member => fresh (tracking.untrackedIssued _ member)
      rw [found]
      simp [Tracked, neverTracked, neverUntracked, eq_comm]
    · have earlier : (actor.projection.tracked content).pending.lookup id =
          actor.projection.pending.lookup id := AList.lookup_insert_ne same
      rw [earlier, tracking.current]
      simp [Tracked, same]
  case untrackedIssued =>
    intro id member
    rw [trackedIds_append]
    have earlier : .untracked id ∈ history := by simpa using member
    exact List.mem_append_left _ (tracking.untrackedIssued id earlier)
  case heldPending =>
    intro id other isHeld
    simp only [held, Option.some.injEq, Prod.mk.injEq] at isHeld
    rcases isHeld with ⟨rfl, rfl⟩
    exact found

theorem remove {deliveryId : DeliveryId} {content : Content}
    (tracking : Tracking actor history)
    (found : actor.projection.pending.lookup deliveryId = some content)
    (represents : ∀ completions,
      actor.projection.Represents (trackedIds history) completions →
        ∃ later, next.projection.Represents (trackedIds history) later)
    (erased : next.projection.pending = actor.projection.pending.erase deliveryId)
    (noneTracked : ∀ id content, .tracked id content ∉ entries)
    (untracked : ∀ id, .untracked id ∈ entries ↔ id = deliveryId)
    (noneHeld : held next.phase = none) :
    Tracking next (history ++ entries) := by
  have sameIssued : trackedIds (history ++ entries) = trackedIds history := by
    rw [trackedIds_append]
    have none : trackedIds entries = [] := by
      apply List.filterMap_eq_nil_iff.mpr
      intro entry member
      cases entry with
      | tracked id content => exact absurd member (noneTracked id content)
      | _ => rfl
    rw [none, List.append_nil]
  constructor
  case represents =>
    rcases tracking.represents with ⟨completions, before⟩
    rw [sameIssued]
    exact represents completions before
  case current =>
    intro id other
    rw [erased, MessageProjection.Represents.lookup_erase_eq_some, tracking.current]
    simp only [Tracked, List.mem_append, not_or, untracked, noneTracked, or_false]
    tauto
  case untrackedIssued =>
    intro id member
    rw [sameIssued]
    rcases List.mem_append.mp member with earlier | new
    · exact tracking.untrackedIssued id earlier
    · rw [(untracked id).mp new]
      exact mem_trackedIds ((tracking.current deliveryId content).mp found).1
  case heldPending =>
    intro id other isHeld
    rw [noneHeld] at isHeld
    cases isHeld

section Release

variable {deliveryId : DeliveryId} {content : Content} {phase : ActorPhase}
  (tracking : Tracking actor history)
  (found : actor.projection.pending.lookup deliveryId = some content)
  (noneTracked : ∀ id content, .tracked id content ∉ entries)
  (untracked : ∀ id, .untracked id ∈ entries ↔ id = deliveryId)
  (noneHeld : held phase = none)

include tracking found noneTracked untracked noneHeld

theorem release : Tracking (actor.release deliveryId phase) (history ++ entries) := by
  refine tracking.remove found ?_ ?_ noneTracked untracked noneHeld
  · intro completions represents
    exact ⟨completions, represents.released found⟩
  · rw [ProjectionActor.release, MessageProjection.release,
      MessageProjection.withdraw_of_pending found]

theorem complete : Tracking (actor.complete deliveryId phase) (history ++ entries) := by
  refine tracking.remove found ?_ ?_ noneTracked untracked noneHeld
  · intro completions represents
    exact ⟨_, represents.completed found⟩
  · rw [ProjectionActor.complete, MessageProjection.complete,
      MessageProjection.withdraw_of_pending found]

end Release

theorem inbox {acknowledgments : AcknowledgmentState} {phase : ActorPhase}
    (tracking : Tracking actor history)
    (same : acknowledgments.registered = actor.projection.acknowledgments.registered)
    (samePhase : held phase = none ∨ phase = actor.phase) (isDraining : Bool)
    (quiet : ∀ entry ∈ entries, entry.changesTracking = false) :
    Tracking
      { projection := actor.projection.withAcknowledgments acknowledgments
        phase, isDraining } (history ++ entries) := by
  refine tracking.frame ?_ rfl quiet ?_
  · intro completions represents
    exact represents.withAcknowledgments same
  · intro id content isHeld
    rcases samePhase with none | unchanged
    · rw [none] at isHeld
      cases isHeld
    · rw [unchanged] at isHeld
      exact tracking.heldPending id content isHeld

theorem batch {acknowledgments : AcknowledgmentState} (tracking : Tracking actor history)
    (same : acknowledgments.registered = actor.projection.acknowledgments.registered)
    (isDraining : Bool) :
    Tracking
      (takeBatch
        { actor with
          projection := actor.projection.withAcknowledgments acknowledgments, isDraining })
      (history ++ []) := by
  refine tracking.inbox ?_ (Or.inl (held_takeBatch _)) isDraining ?_
  · exact same
  · simp

theorem step {label : ActorLabel} (tracking : Tracking actor history)
    (few : (trackedIds (history ++ entries)).length < 2 ^ 64)
    (stepped : actor.step label = some (next, entries)) :
    Tracking next (history ++ entries) := by
  have heldNow := tracking.heldPending
  cases transition_of_step stepped with
  | submitAccepted =>
      refine tracking.inbox ?_ (Or.inr rfl) _ ?_
      · rfl
      · simp [ActorEntry.changesTracking]
  | submitIgnored =>
      exact tracking.frame (fun _ represents => represents) rfl
        (by simp [ActorEntry.changesTracking]) heldNow
  | projectNothing =>
      exact tracking.frame (fun _ represents => represents) rfl (by simp) heldNow
  | projectTracked idle room notPending notCompleted =>
      rw [trackedIds_append, List.length_append] at few
      exact tracking.track few room notPending notCompleted
  | handledAwaiting =>
      exact tracking.frame (fun _ represents => represents) rfl
        (by simp [ActorEntry.changesTracking]) (by simp [held])
  | handledRetry phase =>
      refine tracking.release (heldNow _ _ (by rw [phase]; rfl)) ?_ ?_ rfl <;> simp
  | handledComplete phase =>
      refine tracking.frame (fun _ represents => represents) rfl
        (by simp [ActorEntry.changesTracking]) ?_
      intro id content isHeld
      exact heldNow id content (by rw [phase]; exact isHeld)
  | markStored phase =>
      refine tracking.complete (heldNow _ _ (by rw [phase]; rfl)) ?_ ?_ rfl <;> simp
  | @markFailed deliveryId content error phase =>
      have quiet := quiet_reportStoreError "Could not record a handled Signal message" error
      refine tracking.release (heldNow _ _ (by rw [phase]; rfl)) ?_ ?_ rfl
      · intro id other member
        rcases List.mem_cons.mp member with equal | reported
        · cases equal
        · exact absurd (quiet _ reported) (by simp [ActorEntry.changesTracking])
      · intro id
        have notReported : .untracked id ∉
            reportStoreError "Could not record a handled Signal message" error :=
          fun member => absurd (quiet _ member) (by simp [ActorEntry.changesTracking])
        simp [notReported]
  | takeBatch => exact tracking.batch rfl _
  | batchDone =>
      exact tracking.frame (fun _ represents => represents) rfl (by simp) (by simp [held])
  | drainAgain => exact tracking.batch rfl _
  | acknowledgeUnknown phase absent =>
      exact tracking.frame (fun _ represents => represents.forget absent) rfl (by simp)
        (by simp [held])
  | acknowledgePending phase found =>
      refine tracking.frame (fun _ represents => represents) rfl
        (by simp [ActorEntry.changesTracking]) ?_
      intro id content isHeld
      simp only [held, Option.some.injEq, Prod.mk.injEq] at isHeld
      rcases isHeld with ⟨rfl, rfl⟩
      exact found
  | writeStored phase =>
      refine tracking.complete (heldNow _ _ (by rw [phase]; rfl)) ?_ ?_ rfl <;> simp
  | writeDeferred =>
      exact tracking.inbox (by simp) (Or.inl rfl) _ (quiet_reportStoreError _ _)
  | writeAbandoned =>
      exact tracking.frame (fun _ represents => represents) rfl (quiet_reportStoreError _ _)
        (by simp [held])
  | activateRetries =>
      refine tracking.inbox ?_ (Or.inr rfl) _ ?_
      · rfl
      · simp
  | shutdown => exact tracking.frame (fun _ represents => represents) rfl (by simp) (by simp [held])
  | drain =>
      have closed : actor.projection.acknowledgments.close.registered =
          actor.projection.acknowledgments.registered := rfl
      exact tracking.batch closed true

end Tracking

end ProjectionActor

end SignalPurple
