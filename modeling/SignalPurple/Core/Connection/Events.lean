import SignalPurple.Core.Connection
import SignalPurple.Core.Leave

/-! # Events of the connection actor

What the actor itself can emit, as far as group snapshots are concerned: it never begins
or ends one outside of `emit_group_snapshot`, and the events of a group come from a
content with a group context or from a leave that was accepted under authority.
-/

namespace SignalPurple

/-- What an event means to a reader of group snapshots. -/
inductive SnapshotRole where
  | begins
  | ends
  /-- A message or an attachment in a group, or the end of a membership. -/
  | ofGroup
  | other
  deriving DecidableEq

def Event.snapshotRole (event : Event) : SnapshotRole :=
  match event.kind with
  | .groupSyncBegin => .begins
  | .groupSyncEnd => .ends
  | .groupMessage | .groupLeft => .ofGroup
  | .attachment => if event.chatId.isSome then .ofGroup else .other
  | _ => .other

/-- No event of a snapshot, and one of a group only if `inGroup`. -/
def Event.Unmarked (inGroup : Prop) (event : Event) : Prop :=
  event.snapshotRole = .other ∨ event.snapshotRole = .ofGroup ∧ inGroup

theorem Event.unmarked_of_error {inGroup : Prop} {event : Event} (kind : event.kind = .error) :
    event.Unmarked inGroup := by
  simp [Unmarked, snapshotRole, kind]

theorem Event.Unmarked.imp {inGroup known : Prop} {event : Event}
    (unmarked : event.Unmarked inGroup) (follows : inGroup → known) : event.Unmarked known :=
  unmarked.imp_right fun ⟨role, holds⟩ => ⟨role, follows holds⟩

/-! ## Contents -/

section Contents

variable {account : Account} {projection : DataMessageProjection}
  {group : Option (GroupKey × Group)} {outcomes : PresentationOutcomes}

theorem unmarked_attachmentEvents (attachments : List DownloadedAttachment) :
    ∀ event ∈ attachmentEvents account projection group attachments,
      event.Unmarked (group.isSome = true) := by
  induction attachments with
  | nil => simp [attachmentEvents]
  | cons head later induction =>
      refine List.forall_mem_cons.mpr ⟨?_, induction⟩
      cases group <;> simp [Event.Unmarked, Event.snapshotRole]

theorem unmarked_presentDataMessage :
    ∀ event ∈ presentDataMessage account projection group outcomes,
      event.Unmarked (group.isSome = true) := by
  simp only [presentDataMessage, List.forall_mem_append]
  refine ⟨⟨?_, ?_⟩, unmarked_attachmentEvents _⟩
  · exact fun event member => Event.unmarked_of_error (kind_of_downloadIncoming event member)
  · intro event member
    simp only [Option.mem_toList, Option.map_eq_some_iff] at member
    rcases member with ⟨text, _, rfl⟩
    cases group <;> simp [Event.Unmarked, Event.snapshotRole, textEvent]

theorem groupV2_of_target {message : DataMessage} {key : GroupKey}
    (target : groupMessageTarget message = .group key) : message.groupV2.isSome = true := by
  cases context : message.groupV2 with
  | none => simp [groupMessageTarget, context] at target
  | some found => rfl

theorem unmarked_emitDataMessage (departed : DepartedGroups) :
    ∀ event ∈ (emitDataMessage account departed projection outcomes).1,
      event.Unmarked (projection.message.groupV2.isSome = true) := by
  simp only [emitDataMessage]
  split
  next => simpa using Event.unmarked_of_error rfl
  next =>
    split
    · simp
    · exact fun event member => (unmarked_presentDataMessage event member).imp (by simp)
  next key target =>
    split
    · simp
    · split
      · exact fun event member =>
          (unmarked_presentDataMessage event member).imp fun _ => groupV2_of_target target
      · simp
      · simp
      · simpa using Event.unmarked_of_error rfl

theorem unmarked_handleContent (departed : DepartedGroups) (content : Content)
    (deliveryId : DeliveryId) (receiptDiscarded : Bool) :
    ∀ event ∈ (handleContent account departed content deliveryId receiptDiscarded outcomes).1,
      event.Unmarked (contentHasGroupContext content.body = true) := by
  simp only [handleContent]
  split
  next message body =>
    refine List.forall_mem_append.mpr ⟨?_, ?_⟩
    · intro event member
      refine (unmarked_emitDataMessage departed event member).imp fun inGroup => ?_
      rw [body]
      exact inGroup
    · split
      · simpa using Event.unmarked_of_error rfl
      · simp
  next message body =>
    intro event member
    refine (unmarked_emitDataMessage departed event member).imp fun inGroup => ?_
    rw [body]
    exact inGroup
  next sent body =>
    split
    next message found =>
      intro event member
      refine (unmarked_emitDataMessage departed event member).imp fun inGroup => ?_
      rw [body]
      simp only [contentHasGroupContext, found, Option.any_some]
      exact inGroup
    next => simp
  next =>
    split
    · simp
    · simp [Event.Unmarked, Event.snapshotRole]
  next => simp [Event.Unmarked, Event.snapshotRole]
  next => simpa using Event.unmarked_of_error rfl
  next => simp

end Contents

/-! ## Leaves -/

def GroupEntry.events : GroupEntry → List Event
  | .emitted event | .outbox (.emitted event) => [event]
  | _ => []

section Leaves

variable {account : Account} {departed : DepartedGroups} {state : OutboxState} {event : Event}

theorem StoreError.kind_of_events {error : StoreError} {message : String}
    (member : event ∈ error.events message) : event.kind = .error := by
  unfold StoreError.events at member
  split at member
  · cases member
  · rw [List.mem_singleton.mp member]
    rfl

theorem kind_of_performAttempt {message : ClientOutboxMessage} {outcomes : AttemptOutcomes}
    (member : .emitted event ∈
      (performAttempt account departed state message outcomes).entries) :
    event.kind = .error := by
  simp only [performAttempt] at member
  rcases List.mem_append.mp member with attempted | marked
  · -- An attempt reports its call only.
    simp only [attemptOutboxMessage] at attempted
    split at attempted
    · split at attempted <;> simp [callSend] at attempted
    · split at attempted <;> simp [callSend] at attempted
  · split at marked
    · unfold markSentMessageProjectedOrReport at marked
      split at marked
      · cases marked
      · cases List.mem_singleton.mp marked
        rfl
    · cases marked

theorem kind_of_retryNotice {message : ClientOutboxMessage} {performed : Performed}
    (member : .emitted event ∈ retryNotice message performed) : event.kind = .error := by
  unfold retryNotice at member
  split at member
  · cases List.mem_singleton.mp member
    rfl
  · cases member
  · split at member
    · cases List.mem_singleton.mp member
      rfl
    · split at member
      · cases List.mem_singleton.mp member
        rfl
      · cases member

theorem kind_of_retryMessages {groupsAuthoritative : Bool}
    {outcomes : ClientOutboxMessage → AttemptOutcomes} (messages : List ClientOutboxMessage)
    (member : .emitted event ∈
      (retryMessages account departed groupsAuthoritative outcomes state messages).2) :
    event.kind = .error := by
  induction messages generalizing state with
  | nil => cases member
  | cons message later induction =>
      simp only [retryMessages] at member
      split at member
      · rcases List.mem_append.mp member with first | rest
        · rcases List.mem_append.mp first with performed | noticed
          · exact kind_of_performAttempt performed
          · exact kind_of_retryNotice noticed
        · exact induction rest
      · exact induction member

theorem kind_of_retryOutbox {groupsAuthoritative : Bool} {clockMs : Nat}
    {readError : Option StoreError} {outcomes : ClientOutboxMessage → AttemptOutcomes}
    (member : .emitted event ∈
      (retryOutbox account departed groupsAuthoritative clockMs readError outcomes state).2) :
    event.kind = .error := by
  unfold retryOutbox at member
  split at member
  · rcases List.mem_map.mp member with ⟨reported, inEvents, same⟩
    cases same
    exact StoreError.kind_of_events inEvents
  · exact kind_of_retryMessages _ member

theorem unmarked_acceptLeave {requestId : UInt64} {groupKey : String} {key : GroupKey}
    {outcome : LeaveGroupOutcome} {outcomes : LeaveOutcomes} :
    ∀ entry ∈ (acceptLeave account departed state requestId groupKey key outcome
      outcomes).entries, ∀ event ∈ entry.events, event.Unmarked True := by
  intro entry member event isEvent
  simp only [acceptLeave, groupLeaveCompletionEvents] at member
  rcases List.mem_append.mp member with first | retried
  · rcases List.mem_append.mp first with completed | expedited
    · simp only [List.map_cons, List.mem_cons, List.mem_map] at completed
      rcases completed with rfl | rfl | ⟨warning, ⟨text, _, rfl⟩, rfl⟩
      · cases isEvent
      · rw [List.mem_singleton.mp isEvent]
        exact Or.inr ⟨rfl, trivial⟩
      · rw [List.mem_singleton.mp isEvent]
        exact Event.unmarked_of_error rfl
    · unfold expediteOutbox at expedited
      split at expedited
      · cases expedited
      · cases List.mem_singleton.mp expedited
        rw [List.mem_singleton.mp isEvent]
        exact Event.unmarked_of_error rfl
  · rcases List.mem_map.mp retried with ⟨outboxEntry, inRetry, rfl⟩
    cases outboxEntry with
    | sendCalled => cases isEvent
    | emitted reported =>
        rw [List.mem_singleton.mp isEvent]
        exact Event.unmarked_of_error (kind_of_retryOutbox inRetry)

theorem unmarked_handleLeave {groupsAuthoritative : Bool} {requestId : UInt64}
    {groupKey : String} {outcomes : LeaveOutcomes} :
    ∀ entry ∈ (handleLeave account groupsAuthoritative departed state requestId groupKey
      outcomes).entries, ∀ event ∈ entry.events,
      event.Unmarked (groupsAuthoritative = true) := by
  have abandoned : ∀ state error, ∀ entry ∈
      (abandonLeave departed state requestId groupKey error).entries,
      ∀ event ∈ entry.events, event.Unmarked (groupsAuthoritative = true) := by
    intro state error entry member event isEvent
    cases List.mem_singleton.mp member
    rw [List.mem_singleton.mp isEvent]
    exact Event.unmarked_of_error rfl
  unfold handleLeave
  split
  next => exact abandoned _ _
  next authoritative =>
    split
    · exact abandoned _ _
    · exact abandoned _ _
    · split
      · intro entry member event isEvent
        refine (unmarked_acceptLeave entry member event isEvent).imp fun _ => ?_
        simpa using authoritative
      · intro entry member event isEvent
        simp only [groupLeaveCompletionEvents, List.map_cons, List.map_nil, List.mem_cons,
          List.not_mem_nil, or_false] at member
        rcases member with rfl | rfl
        · cases isEvent
        · rw [List.mem_singleton.mp isEvent]
          exact Event.unmarked_of_error rfl

end Leaves

/-! ## Steps of the connection -/

def ConnectionEntry.events : ConnectionEntry → List Event
  | .emitted event | .projection (.emitted event) => [event]
  | _ => []

/-- Entries without a word about group snapshots or events of a group. -/
def ConnectionEntry.Silent (entry : ConnectionEntry) : Prop :=
  ∀ event ∈ entry.events, event.snapshotRole = .other

theorem ConnectionEntry.silent_emitted {event : Event} (role : event.snapshotRole = .other) :
    (ConnectionEntry.emitted event).Silent := by
  intro other member
  rw [List.mem_singleton.mp member]
  exact role

theorem Event.snapshotRole_of_error {event : Event} (kind : event.kind = .error) :
    event.snapshotRole = .other := by
  simp [snapshotRole, kind]

namespace ProjectionActor

theorem kind_of_emitted {actor next : ProjectionActor} {label : ActorLabel}
    {entries : List ActorEntry} {event : Event}
    (stepped : actor.step label = some (next, entries)) (member : .emitted event ∈ entries) :
    event.kind = .error := by
  have reported : ∀ message (error : StoreError),
      .emitted event ∈ reportStoreError message error → event.kind = .error := by
    intro message error inReport
    rcases List.mem_map.mp inReport with ⟨found, inEvents, same⟩
    cases same
    exact StoreError.kind_of_events inEvents
  cases transition_of_step stepped with
  | @markFailed deliveryId content error phase =>
      apply reported _ error
      simpa using member
  | @writeDeferred deliveryId content remaining error phase live =>
      exact reported _ error member
  | @writeAbandoned deliveryId content remaining error phase draining =>
      exact reported _ error member
  | _ => simp at member

theorem silent_of_step {actor next : ProjectionActor} {label : ActorLabel}
    {entries : List ActorEntry} (stepped : actor.step label = some (next, entries)) :
    ∀ entry ∈ entries.map ConnectionEntry.projection, entry.Silent := by
  intro entry member event isEvent
  rcases List.mem_map.mp member with ⟨inner, inside, rfl⟩
  cases inner with
  | emitted reported =>
      rw [List.mem_singleton.mp isEvent]
      exact Event.snapshotRole_of_error (kind_of_emitted stepped inside)
  | _ => cases isEvent

end ProjectionActor

namespace Connection

variable {connection next : Connection} {label : ConnectionLabel}
  {entries : List ConnectionEntry}

theorem silent_recover (connection : Connection) (error suffix : String) :
    ∀ entry ∈ (connection.recover error suffix).2, entry.Silent := by
  simp only [recover]
  split
  · simpa using ⟨ConnectionEntry.silent_emitted rfl, ConnectionEntry.silent_emitted rfl⟩
  · simpa using ConnectionEntry.silent_emitted rfl

theorem silent_of_step (stepped : connection.step label = some (next, entries)) :
    ∀ entry ∈ entries, entry.Silent := by
  cases transition_of_step stepped with
  | projection allowed inside | stop running inside | waitWith control serving inside
  | resumeWith control serving inside => exact ProjectionActor.silent_of_step inside
  | receiveFailed | reconnect => exact silent_recover connection _ _
  | @introduced groups control =>
      cases groups with
      | ok shown => simp [introduced]
      | error error => simpa [introduced] using ConnectionEntry.silent_emitted rfl
  | loadFailed =>
      intro entry member
      rcases List.mem_map.mp member with ⟨event, inEvents, rfl⟩
      apply ConnectionEntry.silent_emitted
      exact Event.snapshotRole_of_error (StoreError.kind_of_events inEvents)
  | popped control idle room pop =>
      refine List.forall_mem_cons.mpr ⟨?_, ProjectionActor.silent_of_step
        (ProjectionActor.step_projectContent idle _ _)⟩
      intro event isEvent
      cases isEvent
  | resume control quiet errors =>
      intro entry member
      rcases quiet entry member with ⟨event, rfl⟩
      exact ConnectionEntry.silent_emitted (Event.snapshotRole_of_error (errors event member))
  | prepared | refreshFailed | groupSyncFailed =>
      simpa using ConnectionEntry.silent_emitted rfl
  | _ => simp

end Connection

end SignalPurple
