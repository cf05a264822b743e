import SignalPurple.Core.Connection

/-! # Group authority and the replay queue

The replay queue sorts contents by the authority over groups at the time they are
pushed; the dispatch loop projects them under the authority at the time they are popped.
The two agree as long as the queue is sorted again whenever authority is lost. A
recovery revokes authority and leaves that to `load_unprojected_messages`, which does
nothing when the store cannot be read.
-/

namespace SignalPurple

namespace Control

/-- Before `run_startup_phases` has loaded the replay queue. -/
def isStarting : Control → Bool
  | .restarting | .waitingOut | .connecting | .introducing | .loading => true
  | .preparing | .dispatching | .selecting | .refreshing | .stopped => false

def isActive : Control → Bool
  | .preparing | .dispatching | .selecting | .refreshing => true
  | .restarting | .waitingOut | .connecting | .introducing | .loading | .stopped => false

end Control

namespace SessionState

theorem groups_eq_pending {session : SessionState}
    (unknown : session.groupsAuthoritative = false) : session.groups = .pending := by
  unfold groupsAuthoritative at unknown
  split at unknown
  · cases unknown
  · cases unknown
  · assumption

end SessionState

namespace ProjectionActor

theorem hasCapacity_of_submit {actor next : ProjectionActor} {deliveryId : DeliveryId}
    {entries : List ActorEntry}
    (stepped : actor.step (.submit deliveryId) = some (next, entries)) :
    next.projection.hasCapacity = actor.projection.hasCapacity := by
  cases stepped
  rfl

theorem tracked_or_known_of_projectContent {actor : ProjectionActor} {content : Content}
    {groupsAuthoritative : Bool} (room : actor.projection.hasCapacity = true)
    (projectable : contentIsProjectable content.body groupsAuthoritative = true) :
    (∃ deliveryId, .tracked deliveryId content ∈
        (actor.projectContent content groupsAuthoritative).2) ∨
      projectionIdentity content ∈ actor.projection.identities.pending ∨
      projectionIdentity content ∈ actor.projection.identities.completed := by
  by_cases known : projectionIdentity content ∈ actor.projection.identities.pending ∨
      projectionIdentity content ∈ actor.projection.identities.completed
  · exact Or.inr known
  · refine Or.inl ⟨actor.projection.issueDeliveryId, ?_⟩
    rw [not_or] at known
    simp [projectContent, projectable, MessageProjection.track_of_new room known.1 known.2]

end ProjectionActor

namespace Connection

variable {connection next : Connection} {label : ConnectionLabel}
  {history entries : List ConnectionEntry}

/-- What the session takes the groups for while a group sync is in flight, and while `run`
refreshes them. -/
structure SyncMatches (connection : Connection) : Prop where
  syncPending : connection.groupSync = true → connection.session.groups = .pending
  refreshing : connection.control = .refreshing → connection.session.groups = .dirty

namespace SyncMatches

theorem initial : SyncMatches {} := ⟨by simp, by simp⟩

theorem recover (connection : Connection) (error suffix : String) :
    SyncMatches (connection.recover error suffix).1 :=
  ⟨by simp [Connection.recover], by simp [Connection.recover]⟩

theorem restart (synced : SyncMatches connection) : SyncMatches connection.restart := by
  unfold Connection.restart
  split
  · exact ⟨synced.syncPending, by simp⟩
  · refine ⟨synced.syncPending, ?_⟩
    simp only
    split <;> simp

theorem queueEmpty (synced : SyncMatches connection) : SyncMatches connection.queueEmpty := by
  constructor
  · intro spawned
    simp only [Connection.queueEmpty, Bool.or_eq_true, Bool.not_eq_eq_eq_not,
      Bool.not_true] at spawned
    rcases spawned with already | unknown
    · exact synced.syncPending already
    · exact SessionState.groups_eq_pending unknown
  · intro refreshing
    simp only [Connection.queueEmpty] at refreshing
    split at refreshing
    next dirty =>
      simp only [SessionState.groupsDirty, beq_iff_eq] at dirty
      exact dirty
    next => cases refreshing

theorem step (synced : SyncMatches connection)
    (stepped : connection.step label = some (next, entries)) : SyncMatches next := by
  cases transition_of_step stepped with
  | projection => exact ⟨synced.syncPending, synced.refreshing⟩
  | waitWith => exact ⟨synced.syncPending, synced.refreshing⟩
  | waitOn => exact synced
  | stop => exact ⟨by simp, by simp⟩
  | restart => exact synced.restart
  | receiveReady =>
      refine ⟨synced.syncPending, ?_⟩
      simp only
      split <;> simp
  | receiveFailed | reconnect => exact recover connection _ _
  | popped control => exact ⟨synced.syncPending, by simp [control]⟩
  | receivedContent control =>
      refine ⟨fun spawned => ?_, by simp [receivedContent]⟩
      have pending := synced.syncPending spawned
      simp only [receivedContent]
      rw [SessionState.groups_noteGroupContent_of_pending _ pending]
      exact pending
  | queueEmpty => exact synced.queueEmpty
  | refreshed control =>
      refine ⟨fun spawned => ?_, by simp⟩
      -- No group sync is in flight while `run` refreshes dirty groups.
      have pending := synced.syncPending spawned
      rw [synced.refreshing control] at pending
      cases pending
  | refreshFailed => exact ⟨fun _ => rfl, by simp⟩
  | groupSynced | groupSyncFailed => exact ⟨by simp [groupSynced], by simp [groupSynced]⟩
  | groupSyncTick control unknown =>
      exact ⟨fun _ => SessionState.groups_eq_pending unknown, by simp⟩
  | _ => exact ⟨synced.syncPending, by simp⟩

end SyncMatches

structure Classified (connection : Connection) : Prop extends SyncMatches connection where
  notReady : connection.control.isStarting = true → connection.session.isReady = false
  sorted : connection.control.isActive = true →
    connection.session.groupsAuthoritative = false → connection.replay.FreeOfGroups
  /-- The `select!` is reached with contents left only if none of them fits. -/
  selected : connection.control = .selecting →
    connection.actor.projection.hasCapacity = true → connection.replay.ready = []
  drained : connection.control = .refreshing → connection.replay.ready = []

namespace Classified

theorem initial : Classified {} :=
  ⟨SyncMatches.initial, by simp [SessionState.isReady], by simp [Control.isActive], by simp,
    by simp⟩

theorem frame (classified : Classified connection) (synced : SyncMatches next)
    (sameSession : next.session = connection.session)
    (sameReplay : next.replay = connection.replay)
    (starting : next.control.isStarting = true → connection.control.isStarting = true)
    (active : next.control.isActive = true → connection.control.isActive = true)
    (notSelecting : next.control ≠ .selecting) (notRefreshing : next.control ≠ .refreshing) :
    Classified next := by
  refine ⟨synced, ?_, ?_, ?_, ?_⟩
  · intro isStarting
    rw [sameSession]
    exact classified.notReady (starting isStarting)
  · intro isActive
    rw [sameSession, sameReplay]
    exact classified.sorted (active isActive)
  · exact fun selecting => absurd selecting notSelecting
  · exact fun refreshing => absurd refreshing notRefreshing

theorem roundReplay (classified : Classified connection)
    (dispatching : connection.control = .dispatching)
    (unknown : connection.session.groupsAuthoritative = false) :
    connection.roundReplay.FreeOfGroups := by
  have sorted := classified.sorted (by rw [dispatching]; rfl) unknown
  simpa [Connection.roundReplay, unknown] using sorted

theorem projection {inner : ActorLabel} {reached : ProjectionActor} {shown : List ActorEntry}
    (classified : Classified connection) (allowed : continues connection.control inner = true)
    (stepped : connection.actor.step inner = some (reached, shown)) :
    Classified { connection with actor := reached } := by
  refine ⟨⟨classified.syncPending, classified.refreshing⟩, classified.notReady,
    classified.sorted, ?_, classified.drained⟩
  intro selecting room
  -- In the `select!` only the UI moves, and it frees no capacity.
  have submits : ∃ deliveryId, inner = .submit deliveryId := by
    have selecting : connection.control = .selecting := selecting
    rw [selecting] at allowed
    cases inner <;> simp [continues] at allowed ⊢
  rcases submits with ⟨deliveryId, rfl⟩
  refine classified.selected selecting ?_
  rw [← ProjectionActor.hasCapacity_of_submit stepped]
  exact room

theorem recover (connection : Connection) (error suffix : String) :
    Classified (connection.recover error suffix).1 := by
  refine ⟨SyncMatches.recover connection error suffix, ?_, ?_, ?_, ?_⟩ <;>
    simp [Connection.recover, SessionState.enterRecovery, SessionState.isReady, Control.isActive]

theorem restart (classified : Classified connection)
    (control : connection.control = .restarting) : Classified connection.restart := by
  have notReady : connection.restart.session.isReady = false := by
    rw [← classified.notReady (by rw [control]; rfl)]
    unfold Connection.restart
    split <;> rfl
  have reached : connection.restart.control = .connecting ∨
      connection.restart.control = .waitingOut := by
    unfold Connection.restart
    split
    · exact Or.inl rfl
    · simp only
      split <;> simp
  refine ⟨classified.toSyncMatches.restart, fun _ => notReady, ?_, ?_, ?_⟩ <;>
    rcases reached with reached | reached <;> simp [reached, Control.isActive]

theorem receivedContent (classified : Classified connection) (content : Content)
    (synced : SyncMatches (connection.receivedContent content))
    (control : connection.control = .selecting) :
    Classified (connection.receivedContent content) := by
  have sorted := classified.sorted (by rw [control]; rfl)
  refine ⟨synced, ?_, ?_, ?_, ?_⟩
  · simp [Connection.receivedContent, Control.isStarting]
  · intro _ unknown
    simp only [Connection.receivedContent,
      SessionState.groupsAuthoritative_noteGroupContent] at unknown ⊢
    rw [unknown]
    split
    · exact (sorted unknown).push content
    · exact sorted unknown
  · simp [Connection.receivedContent]
  · simp [Connection.receivedContent]

theorem queueEmpty (classified : Classified connection)
    (control : connection.control = .selecting)
    (room : connection.actor.projection.hasCapacity = true) :
    Classified connection.queueEmpty := by
  have emptied := classified.selected control room
  refine ⟨classified.toSyncMatches.queueEmpty, ?_, ?_, ?_, fun _ => emptied⟩
  · simp only [Connection.queueEmpty]
    split <;> simp [Control.isStarting]
  · intro _ _
    simp [Connection.queueEmpty, MessageReplayQueue.FreeOfGroups, emptied]
  · simp only [Connection.queueEmpty]
    split <;> simp

end Classified

/-- A failed load finds nothing in the replay queue that was sorted under an authority
that is gone. -/
def FailedLoadFindsNoGroups (connection : Connection) (label : ConnectionLabel) : Prop :=
  ∀ error, label = .loaded (.error error) → connection.replay.FreeOfGroups

theorem Classified.step (classified : Classified connection)
    (reloaded : FailedLoadFindsNoGroups connection label)
    (stepped : connection.step label = some (next, entries)) : Classified next := by
  have synced := classified.toSyncMatches.step stepped
  cases transition_of_step stepped with
  | projection allowed inside => exact classified.projection allowed inside
  | stop =>
      exact ⟨synced, by simp [Control.isStarting], by simp [Control.isActive], by simp, by simp⟩
  | restart control => exact classified.restart control
  | delayElapsed control =>
      exact classified.frame synced rfl rfl (fun _ => by rw [control]; rfl)
        (by simp [Control.isActive]) (by simp) (by simp)
  | receiveReady control =>
      have notReady := classified.notReady (by rw [control]; rfl)
      simp only [notReady] at synced ⊢
      exact classified.frame synced rfl rfl (fun _ => by rw [control]; rfl)
        (by simp [Control.isActive]) (by simp) (by simp)
  | receiveFailed => exact Classified.recover connection _ _
  | waitWith control =>
      refine classified.frame synced rfl rfl id id ?_ ?_
      · rcases control with waiting | waiting <;> simp [waiting]
      · rcases control with waiting | waiting <;> simp [waiting]
  | waitOn => exact classified
  | introduced control =>
      exact classified.frame synced rfl rfl (fun _ => by rw [control]; rfl)
        (by simp [Control.isActive]) (by simp) (by simp)
  | @loaded messages control =>
      refine ⟨synced, by simp [Control.isStarting], ?_, by simp, by simp⟩
      intro _ unknown
      have unknown : connection.session.groupsAuthoritative = false := unknown
      simp only [unknown]
      exact MessageReplayQueue.FreeOfGroups.replace _ messages
  | @loadFailed error control =>
      refine ⟨synced, by simp [Control.isStarting], ?_, by simp, by simp⟩
      exact fun _ _ => reloaded error rfl
  | prepared control =>
      have sorted := classified.sorted (by rw [control]; rfl)
      exact ⟨synced, by simp [Control.isStarting], fun _ => sorted, by simp, by simp⟩
  | popped control idle room pop =>
      refine ⟨synced, classified.notReady, ?_, by simp [control], by simp [control]⟩
      intro _ unknown
      exact (classified.roundReplay control unknown).popReady pop
  | select control nothing =>
      refine ⟨synced, by simp [Control.isStarting], ?_, ?_, by simp⟩
      · exact fun _ unknown => classified.roundReplay control unknown
      · exact fun _ room => MessageReplayQueue.ready_eq_nil_of_popReady (nothing room)
  | resumeWith control =>
      exact classified.frame synced rfl rfl (by simp [Control.isStarting])
        (fun _ => by rw [control]; rfl) (by simp) (by simp)
  | resume control =>
      exact classified.frame synced rfl rfl (by simp [Control.isStarting])
        (fun _ => by rw [control]; rfl) (by simp) (by simp)
  | receivedContent control => exact classified.receivedContent _ synced control
  | queueEmpty control room => exact classified.queueEmpty control room
  | refreshed control =>
      refine ⟨synced, by simp [Control.isStarting], ?_, by simp, by simp⟩
      intro _ unknown
      cases unknown
  | refreshFailed control =>
      have emptied := classified.drained control
      refine ⟨synced, by simp [Control.isStarting], ?_, by simp, by simp⟩
      intro _ _
      simp [MessageReplayQueue.FreeOfGroups, emptied]
  | reconnect => exact Classified.recover connection _ _
  | groupSynced control =>
      refine ⟨synced, by simp [groupSynced, Control.isStarting], ?_, by simp [groupSynced],
        by simp [groupSynced]⟩
      intro _ unknown
      cases unknown
  | groupSyncFailed control spawned =>
      refine ⟨synced, by simp [groupSynced, Control.isStarting], ?_, by simp [groupSynced],
        by simp [groupSynced]⟩
      -- The sync was in flight, so nothing was sorted under authority.
      intro _ _
      refine classified.sorted (by rw [control]; rfl) ?_
      simp [SessionState.groupsAuthoritative, classified.syncPending spawned]
  | groupSyncTick control unknown =>
      refine ⟨synced, by simp [Control.isStarting], ?_, by simp, by simp⟩
      exact fun _ => classified.sorted (by rw [control]; rfl)

def AlwaysClassified (connection : Connection) (_history : List ConnectionEntry) : Prop :=
  Classified connection

theorem classified_of_run {labels : List ConnectionLabel}
    (reloaded : machine.StepsMeet FailedLoadFindsNoGroups machine.initial labels)
    (runs : machine.run labels = some (connection, history)) :
    AlwaysClassified connection history := by
  refine machine.run_invariant_of_steps Classified.initial ?_ reloaded runs
  intro connection history label next entries classified reloaded stepped
  exact Classified.step classified reloaded stepped

theorem round_of_popped {content : Content} {groupsAuthoritative : Bool}
    (stepped : connection.step label = some (next, entries))
    (popped : .popped content groupsAuthoritative ∈ entries) :
    connection.control = .dispatching ∧
      connection.actor.projection.hasCapacity = true ∧
      groupsAuthoritative = connection.session.groupsAuthoritative ∧
      (∃ rest, connection.roundReplay.popReady = some (content, rest)) ∧
      ∀ entry ∈ (connection.actor.projectContent content groupsAuthoritative).2,
        .projection entry ∈ entries := by
  cases transition_of_step stepped with
  | @popped head rest control idle room pop =>
      have same : content = head ∧
          groupsAuthoritative = connection.session.groupsAuthoritative := by
        simpa using popped
      rcases same with ⟨rfl, rfl⟩
      refine ⟨control, room, rfl, ⟨rest, pop⟩, ?_⟩
      exact fun entry member => List.mem_cons_of_mem _ (List.mem_map_of_mem member)
  | @introduced groups control =>
      cases groups <;> simp [introduced] at popped
  | receiveFailed =>
      simp only [recover] at popped
      split at popped <;> simp at popped
  | reconnect =>
      simp only [recover] at popped
      split at popped <;> simp at popped
  | resume control quiet =>
      rcases quiet _ popped with ⟨event, emitted⟩
      cases emitted
  | _ => simp at popped

/-- In every run whose failed loads find no group content in the queue, a popped content
is projectable, and it is tracked unless it is a copy of one that was. -/
theorem run_pops_only_projectable {labels : List ConnectionLabel} {content : Content}
    {groupsAuthoritative : Bool}
    (reloaded : machine.StepsMeet FailedLoadFindsNoGroups machine.initial labels)
    (runs : machine.run labels = some (connection, history))
    (stepped : machine.step connection label = some (next, entries))
    (popped : .popped content groupsAuthoritative ∈ entries) :
    contentIsProjectable content.body groupsAuthoritative = true ∧
      ((∃ deliveryId, .projection (.tracked deliveryId content) ∈ entries) ∨
        projectionIdentity content ∈ connection.actor.projection.identities.pending ∨
        projectionIdentity content ∈ connection.actor.projection.identities.completed) ∧
      ∀ queued ∈ connection.roundReplay.ready, contentHasGroupContext queued.body = true →
        connection.session.groupsAuthoritative = true := by
  have classified : Classified connection := classified_of_run reloaded runs
  rcases round_of_popped stepped popped with ⟨control, room, rfl, ⟨rest, pop⟩, shown⟩
  have sorted : ∀ queued ∈ connection.roundReplay.ready,
      contentHasGroupContext queued.body = true →
        connection.session.groupsAuthoritative = true := by
    intro queued member inGroup
    by_contra unknown
    have free := classified.roundReplay control (by simpa using unknown)
    rw [free queued member] at inGroup
    cases inGroup
  have projectable :
      contentIsProjectable content.body connection.session.groupsAuthoritative = true := by
    have member : content ∈ connection.roundReplay.ready := by
      rw [MessageReplayQueue.ready_of_popReady pop]
      exact List.mem_cons_self
    cases inGroup : contentHasGroupContext content.body with
    | false => simp [contentIsProjectable, inGroup]
    | true => simp [contentIsProjectable, sorted content member inGroup]
  refine ⟨projectable, ?_, sorted⟩
  rcases ProjectionActor.tracked_or_known_of_projectContent room projectable with
    ⟨deliveryId, tracked⟩ | known
  · exact Or.inl ⟨deliveryId, shown _ tracked⟩
  · exact Or.inr known

def connectAndLoad (result : Except StoreError (List Content)) : List ConnectionLabel :=
  [.receiveStarted (.ok ()), .introduced (.ok ()), .loaded result, .prepared]

/-- A first connection whose groups become known while the loop waits. -/
def connectWithGroups (messages : List Content) : List ConnectionLabel :=
  [.restart] ++ connectAndLoad (.ok messages) ++
    [.round, .groupSyncTick, .round, .groupSynced (.ok ())]

theorem run_pops_only_projectable_after_group_sync :
    ∃ connection history next,
      machine.run (connectWithGroups [groupContent 1]) = some (connection, history) ∧
      machine.step connection .round =
        some (next, [.popped (groupContent 1) true,
          .projection (.tracked 1 (groupContent 1))]) ∧
      contentIsProjectable (groupContent 1).body true = true := by
  have reaches : ∃ connection next,
      machine.run (connectWithGroups [groupContent 1]) =
        some (connection, [.emitted { kind := .ready }]) ∧
      machine.step connection .round =
        some (next, [.popped (groupContent 1) true,
          .projection (.tracked 1 (groupContent 1))]) := ⟨_, _, rfl, rfl⟩
  rcases reaches with ⟨connection, next, runs, stepped⟩
  have reloaded : machine.StepsMeet FailedLoadFindsNoGroups machine.initial
      (connectWithGroups [groupContent 1]) :=
    machine.stepsMeet_of_forall
      (by simp [connectWithGroups, connectAndLoad, FailedLoadFindsNoGroups])
  exact ⟨connection, _, next, runs, stepped,
    (run_pops_only_projectable reloaded runs stepped List.mem_cons_self).1⟩

/-- Sixty-five messages of a group are loaded and the first sixty-four are shown. A
delivery receipt fails, so the connection recovers, and this time the store is busy when
the replay queue is loaded. Then the first message is acknowledged. -/
def busyStoreAfterRecovery : List ConnectionLabel :=
  connectWithGroups ((List.range 65).map fun (index : Nat) => groupContent index) ++
    (List.replicate 64 [.round, .projection (.handled .awaitingAck)]).flatten ++
    [.round, .receiptCompleted (some "connection lost"), .restart, .delayElapsed] ++
    connectAndLoad (.error { text := "database is locked", isTransient := true }) ++
    [.round, .projection (.submit 1), .acknowledge, .projection .acknowledgeNext,
      .projection (.acknowledged .stored), .projection .acknowledgeNext]

/-- The last message is popped while the groups are unknown and then discarded. -/
theorem failed_load_drops_group_content :
    ∃ connection history next, machine.run busyStoreAfterRecovery = some (connection, history) ∧
      machine.step connection .round = some (next, [.popped (groupContent 64) false]) ∧
      projectionIdentity (groupContent 64) ∉ connection.actor.projection.identities.pending ∧
      projectionIdentity (groupContent 64) ∉
        connection.actor.projection.identities.completed := by
  have reaches : (machine.run busyStoreAfterRecovery).any (fun reached =>
      (machine.step reached.1 .round).any fun popped =>
        decide (popped.2 = [.popped (groupContent 64) false] ∧
          projectionIdentity (groupContent 64) ∉ reached.1.actor.projection.identities.pending ∧
          projectionIdentity (groupContent 64) ∉
            reached.1.actor.projection.identities.completed)) = true := by
    decide +kernel
  rcases (Option.any_eq_true _ _).mp reaches with ⟨⟨connection, history⟩, runs, pops⟩
  rcases (Option.any_eq_true _ _).mp pops with ⟨⟨next, entries⟩, stepped, outcome⟩
  rcases of_decide_eq_true outcome with ⟨rfl, notPending, notCompleted⟩
  exact ⟨connection, history, next, runs, stepped, notPending, notCompleted⟩

end Connection

end SignalPurple
