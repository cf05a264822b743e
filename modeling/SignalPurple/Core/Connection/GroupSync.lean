import SignalPurple.Core.Connection.Authority

/-! # Group sync of a connection

When a group-sync task may be in flight and when `run` awaits a snapshot itself. Nothing
but the state of the session keeps the two apart, and keeps both apart from the contents
and leaves of groups.
-/

namespace SignalPurple

namespace Control

/-- `run` awaits `emit_group_snapshot`. -/
def awaitsSnapshot : Control → Bool
  | .introducing | .refreshing => true
  | .restarting | .waitingOut | .connecting | .loading | .preparing | .dispatching
  | .selecting | .stopped => false

end Control

namespace ConnectionLabel

def endsSnapshot : ConnectionLabel → Bool
  | .introduced _ | .refreshed _ | .groupSynced _ => true
  | _ => false

end ConnectionLabel

namespace ProjectionActor

variable {actor next : ProjectionActor} {label : ActorLabel} {entries : List ActorEntry}
  {deliveryId : DeliveryId} {content : Content}

theorem handling_of_step (stepped : actor.step label = some (next, entries))
    (notProjecting : ∀ content authority, label ≠ .projectContent content authority)
    (handling : next.phase = .handling deliveryId content) :
    actor.phase = .handling deliveryId content := by
  have takesBatch : actor.takeBatch.phase ≠ .handling deliveryId content := by
    simp only [takeBatch]
    split <;> simp
  cases transition_of_step stepped with
  | submitAccepted => exact handling
  | submitIgnored => exact handling
  | projectNothing => exact absurd rfl (notProjecting _ _)
  | projectTracked => exact absurd rfl (notProjecting _ _)
  | takeBatch => exact absurd handling takesBatch
  | drainAgain => exact absurd handling takesBatch
  | activateRetries => exact handling
  | drain =>
      simp only [drain, ProjectionActor.takeBatch] at handling
      split at handling <;> cases handling
  | _ => cases handling

theorem projectable_of_handling {authority : Bool} {popped : Content}
    (idle : actor.phase = .idle)
    (handling : (actor.projectContent popped authority).1.phase = .handling deliveryId content) :
    content = popped ∧ contentIsProjectable popped.body authority = true := by
  unfold projectContent at handling
  split at handling
  next => simp [idle] at handling
  next projectable =>
    split at handling
    · simp [idle] at handling
    · cases handling
      exact ⟨rfl, by simpa using projectable⟩

end ProjectionActor

namespace Connection

variable {connection next : Connection} {label : ConnectionLabel}
  {entries : List ConnectionEntry}

/-- Nothing about a group is emitted: its snapshot is not there, or `run` has stopped. -/
def IsQuiet (connection : Connection) : Prop :=
  connection.session.groups = .pending ∨ connection.control = .stopped

/-- What keeps the emitters of group snapshots and of group events apart. -/
structure Settled (connection : Connection) : Prop extends SyncMatches connection where
  syncing : connection.groupSync = true →
    connection.control = .dispatching ∨ connection.control = .selecting
  handling : ∀ deliveryId content, connection.actor.phase = .handling deliveryId content →
    connection.control = .dispatching ∧
      (contentHasGroupContext content.body = true →
        connection.session.groupsAuthoritative = true)

theorem idle_of_step (stepped : connection.step label = some (next, entries)) :
    connection.actor.phase = .idle ∨ label = .shutdown ∨ ∃ inner, label = .projection inner := by
  unfold step at stepped
  split at stepped
  next inner =>
    exact Or.inr (Or.inr ⟨inner, rfl⟩)
  next => exact Or.inr (Or.inl rfl)
  next =>
    split at stepped
    next idle =>
      exact Or.inl idle
    next => cases stepped

namespace Settled

theorem initial : Settled {} := ⟨SyncMatches.initial, by simp, by simp⟩

theorem unsynced (settled : Settled connection) (notDispatching : connection.control ≠ .dispatching)
    (notSelecting : connection.control ≠ .selecting) : connection.groupSync = false := by
  by_contra synced
  rcases settled.syncing (by simpa using synced) with dispatching | selecting
  · exact notDispatching dispatching
  · exact notSelecting selecting

theorem pass (synced : SyncMatches next)
    (idle : ∀ deliveryId content, next.actor.phase ≠ .handling deliveryId content)
    (reached : next.groupSync = true → next.control = .dispatching ∨ next.control = .selecting) :
    Settled next :=
  ⟨synced, reached, fun deliveryId content handling => absurd handling (idle deliveryId content)⟩

theorem projection {inner : ActorLabel} {reached : ProjectionActor} {shown : List ActorEntry}
    (settled : Settled connection) (allowed : continues connection.control inner = true)
    (stepped : connection.actor.step inner = some (reached, shown)) :
    Settled { connection with actor := reached } := by
  refine ⟨⟨settled.syncPending, settled.refreshing⟩, settled.syncing, ?_⟩
  intro deliveryId content handling
  refine settled.handling deliveryId content ?_
  apply ProjectionActor.handling_of_step stepped _ handling
  rintro content authority rfl
  cases control : connection.control <;> simp [continues] at allowed

theorem not_handling (settled : Settled connection)
    (notDispatching : connection.control ≠ .dispatching) (deliveryId : DeliveryId)
    (content : Content) : connection.actor.phase ≠ .handling deliveryId content :=
  fun handling => notDispatching (settled.handling deliveryId content handling).1

theorem of_unsynced (settled : Settled connection) (synced : SyncMatches next)
    (notDispatching : connection.control ≠ .dispatching)
    (notSelecting : connection.control ≠ .selecting)
    (sameActor : next.actor = connection.actor)
    (sameSync : next.groupSync = connection.groupSync) : Settled next := by
  have unsynced : next.groupSync = false := by
    rw [sameSync]
    exact settled.unsynced notDispatching notSelecting
  refine pass synced ?_ (by simp [unsynced])
  rw [sameActor]
  exact settled.not_handling notDispatching

theorem serve {inner : ActorLabel} {reached : ProjectionActor} {shown : List ActorEntry}
    (settled : Settled connection) (notDispatching : connection.control ≠ .dispatching)
    (serving : inner = .processAcknowledgments ∨ inner = .activateRetries)
    (stepped : connection.actor.step inner = some (reached, shown)) (deliveryId : DeliveryId)
    (content : Content) : reached.phase ≠ .handling deliveryId content := by
  intro handling
  apply settled.not_handling notDispatching deliveryId content
  apply ProjectionActor.handling_of_step stepped _ handling
  rintro content authority rfl
  rcases serving with isServing | isServing <;> cases isServing

theorem restart (settled : Settled connection) (control : connection.control = .restarting) :
    Settled connection.restart := by
  refine settled.of_unsynced settled.toSyncMatches.restart (by simp [control])
    (by simp [control]) ?_ ?_
  · unfold Connection.restart
    split <;> rfl
  · unfold Connection.restart
    split <;> rfl

theorem popped (settled : Settled connection) {content : Content} {replay : MessageReplayQueue}
    (control : connection.control = .dispatching) (idle : connection.actor.phase = .idle) :
    Settled { connection with
      replay
      actor := (connection.actor.projectContent content
        connection.session.groupsAuthoritative).1 } := by
  refine ⟨⟨settled.syncPending, settled.refreshing⟩, settled.syncing, ?_⟩
  intro deliveryId handled handling
  rcases ProjectionActor.projectable_of_handling idle handling with ⟨rfl, projectable⟩
  refine ⟨control, fun inGroup => ?_⟩
  simpa [contentIsProjectable, inGroup] using projectable

theorem queueEmpty (settled : Settled connection) (control : connection.control = .selecting) :
    Settled connection.queueEmpty := by
  have synced := settled.toSyncMatches.queueEmpty
  refine pass synced (settled.not_handling (by simp [control])) fun spawned => ?_
  have pending : connection.session.groups = .pending := synced.syncPending spawned
  simp [Connection.queueEmpty, SessionState.groupsDirty, pending]

theorem step (settled : Settled connection)
    (stepped : connection.step label = some (next, entries)) : Settled next := by
  have synced := settled.toSyncMatches.step stepped
  cases transition_of_step stepped with
  | projection allowed inside => exact settled.projection allowed inside
  | @stop label reached shown running inside =>
      refine pass synced ?_ (by simp)
      intro deliveryId content handling
      simp only [ProjectionActor.step] at inside
      split at inside
      · cases inside
        cases handling
      · cases inside
  | restart control => exact settled.restart control
  | delayElapsed control | receiveReady control | introduced control | loaded control
  | loadFailed control | prepared control | refreshed control | refreshFailed control =>
      exact settled.of_unsynced synced (by simp [control]) (by simp [control]) rfl rfl
  | receiveFailed control | reconnect control =>
      exact pass synced (settled.not_handling (by simp [control])) (by simp [recover])
  | waitWith control serving inside =>
      have notDispatching : connection.control ≠ .dispatching := by
        rcases control with waiting | waiting <;> simp [waiting]
      exact pass synced (settled.serve notDispatching serving inside) settled.syncing
  | waitOn => exact settled
  | popped control idle room pop => exact settled.popped control idle
  | select control nothing =>
      have idle : connection.actor.phase = .idle := by
        simpa using idle_of_step stepped
      exact pass synced (by simp [idle]) fun _ => Or.inr rfl
  | resumeWith control serving inside =>
      exact pass synced (settled.serve (by simp [control]) serving inside) fun _ => Or.inl rfl
  | resume control | receivedContent control | groupSyncTick control =>
      exact pass synced (settled.not_handling (by simp [control])) fun _ => Or.inl rfl
  | queueEmpty control => exact settled.queueEmpty control
  | groupSynced control | groupSyncFailed control =>
      exact pass synced (settled.not_handling (by simp [control])) (by simp [groupSynced])

end Settled

/-! ## What a step means to the emissions -/

theorem pending_of_quiet (quiet : connection.IsQuiet) (running : connection.control ≠ .stopped) :
    connection.session.groups = .pending :=
  quiet.resolve_right running

theorem quiet_of_step (notRefreshed : label ≠ .refreshed (.ok ()))
    (notSynced : label ≠ .groupSynced (.ok ()))
    (stepped : connection.step label = some (next, entries)) (quiet : connection.IsQuiet) :
    next.IsQuiet := by
  have pending := pending_of_quiet quiet
  cases transition_of_step stepped with
  | projection => exact quiet
  | stop => exact Or.inr rfl
  | restart control =>
      refine Or.inl ?_
      unfold restart
      split <;> exact pending (by simp [control])
  | receiveFailed => exact Or.inl rfl
  | waitWith => exact quiet
  | waitOn => exact quiet
  | popped => exact quiet
  | receivedContent control =>
      refine Or.inl ?_
      simp only [receivedContent]
      rw [SessionState.groups_noteGroupContent_of_pending _ (pending (by simp [control]))]
      exact pending (by simp [control])
  | refreshed => exact absurd rfl notRefreshed
  | refreshFailed => exact Or.inl rfl
  | reconnect => exact Or.inl rfl
  | groupSynced => exact absurd rfl notSynced
  | groupSyncFailed => exact Or.inl rfl
  | delayElapsed control | receiveReady control | introduced control | loaded control
  | loadFailed control | prepared control | select control | resumeWith control
  | resume control | queueEmpty control | groupSyncTick control =>
      exact Or.inl (pending (by simp [control]))

theorem quiet_of_released (ordinary : label.endsSnapshot = false)
    (stepped : connection.step label = some (next, entries))
    (synced : connection.groupSync = true) (released : next.groupSync = false) :
    next.IsQuiet := by
  cases transition_of_step stepped with
  | stop => exact Or.inr rfl
  | receiveFailed => exact Or.inl rfl
  | reconnect => exact Or.inl rfl
  | restart =>
      unfold restart at released
      split at released <;> simp [synced] at released
  | receivedContent => simp [receivedContent, synced] at released
  | queueEmpty => simp [queueEmpty, synced] at released
  | groupSynced => cases ordinary
  | groupSyncFailed => cases ordinary
  | _ => simp [synced] at released

theorem control_of_awaiting (ordinary : label.endsSnapshot = false)
    (stepped : connection.step label = some (next, entries))
    (awaited : connection.control.awaitsSnapshot = true) :
    next.control = connection.control ∨ next.control = .stopped := by
  have elsewhere : ∀ control : Control, control.awaitsSnapshot = false →
      connection.control ≠ control := by
    rintro control unawaited rfl
    rw [awaited] at unawaited
    cases unawaited
  cases transition_of_step stepped with
  | projection | waitOn => exact Or.inl rfl
  | stop => exact Or.inr rfl
  | introduced | refreshed | refreshFailed => cases ordinary
  | waitWith control =>
      rcases control with control | control <;> exact absurd control (elsewhere _ rfl)
  | restart control | delayElapsed control | receiveReady control | receiveFailed control
  | loaded control | loadFailed control | prepared control | popped control
  | select control | resumeWith control | resume control | receivedContent control
  | queueEmpty control | reconnect control | groupSynced control
  | groupSyncFailed control | groupSyncTick control =>
      exact absurd control (elsewhere _ rfl)

theorem quiet_of_dropped (ordinary : label.endsSnapshot = false)
    (stepped : connection.step label = some (next, entries))
    (awaited : connection.control.awaitsSnapshot = true)
    (dropped : next.control.awaitsSnapshot = false) : next.IsQuiet := by
  rcases control_of_awaiting ordinary stepped awaited with same | stopped
  · simp [same, awaited] at dropped
  · exact Or.inr stopped

end Connection

end SignalPurple
