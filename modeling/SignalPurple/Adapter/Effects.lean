import SignalPurple.Adapter.Reconcile

/-! # The functions behind the dispatch

The dispatch takes the functions that it calls as changes of the state. Here they are those
that reconcile the buddy list, open a group and deactivate one, so that an event can be
followed from the dispatcher to the buddy list.
-/

namespace SignalPurple

namespace AdapterState

def groupIsActive (state : AdapterState) (groupKey : String) : Bool :=
  state.groupSnapshotComplete && decide (groupKey ∈ state.activeGroupKeys)

def groupCanSend (state : AdapterState) (groupKey : String) : Bool :=
  state.groupIsActive groupKey && decide (groupKey ∉ state.pendingGroupLeaves)

end AdapterState

/-- The functions that are not followed: they show the code for linking and avatars, send
read receipts, keep members and files. None of them names the pending leaves. -/
structure OtherHandlers where
  run : Handlers
  keepsLeaves : ∀ handler state event,
    (run handler state event).pendingGroupLeaves = state.pendingGroupLeaves

structure Surroundings where
  purple : Purple
  walk : Walk
  others : OtherHandlers

namespace SyncEvent

def ofEvent (event : SignalEvent) : Option SyncEvent :=
  match EventKind.ofCode event.kind with
  | some .contactSyncBegin => some .contactSyncBegin
  | some .contact => some (.contact event.peerId event.title event.text)
  | some .contactSyncEnd => some .contactSyncEnd
  | some .groupSyncBegin => some .groupSyncBegin
  | some .group => some (.group event.chatId event.title)
  | some .groupSyncEnd => some (.groupSyncEnd event.value)
  | _ => none

end SyncEvent

namespace Reconciler

variable (account : AccountId) (library : BuddyListLibrary) (moment : Surroundings)

/-- `signal_open_group`, as far as it does not concern the conversation. -/
def openGroup (state : Reconciler) (groupKey : String) (title : Option String) : Reconciler :=
  { state with
    pendingGroupJoins := state.pendingGroupJoins.erase groupKey
    groupTitles := if isBlank title then state.groupTitles
      else Function.update state.groupTitles groupKey title }

/-- Only a message brings the title of its group along. -/
def openedTitle (event : SignalEvent) : Option String :=
  if EventKind.ofCode event.kind = some .groupMessage then event.title else none

def effect (state : Reconciler) (event : SignalEvent) : Handler → Reconciler
  | .beginContactSync => state.beginContactSync
  | .addContact =>
      state.addContact account library moment.walk event.peerId event.title event.text
  | .endContactSync => state.endContactSync account
  | .beginGroupSync => state.beginGroupSync
  | .addGroup => state.addGroup account library moment.walk event.chatId event.title
  | .endGroupSync => (state.endGroupSync account moment.walk event.value).1
  | .openGroup => state.openGroup (event.chatId.getD "") (openedTitle event)
  | .deactivateGroup => state.deactivateGroup account true (event.chatId.getD "")
  | handler =>
      { state with toAdapterState := moment.others.run handler state.toAdapterState event }

def handlers (state : Reconciler) : Handlers := fun handler adapter event =>
  ({ state with toAdapterState := adapter }.effect account library moment event
    handler).toAdapterState

def calledHandlers (calls : List AdapterCall) : List Handler :=
  calls.filterMap fun
    | .called handler => some handler
    | _ => none

def dispatched (state : Reconciler) (event : SignalEvent) : Dispatched :=
  dispatchEvent (state.handlers account library moment) moment.purple state.toAdapterState event

/-- The state after an event: what the dispatch works on, and the rest as the functions it
has called leave it. -/
def afterEvent (state : Reconciler) (event : SignalEvent) : Reconciler :=
  let dispatched := state.dispatched account library moment event
  { (calledHandlers dispatched.calls).foldl
      (fun rest handler => rest.effect account library moment event handler) state with
    toAdapterState := dispatched.state }

variable {account library moment} {state : Reconciler} {event : SignalEvent}

theorem afterEvent_of_sync {sync : SyncEvent} (isSync : SyncEvent.ofEvent event = some sync) :
    state.afterEvent account library moment event =
      state.reconcile account library moment.walk sync := by
  unfold SyncEvent.ofEvent at isSync
  unfold afterEvent dispatched dispatchEvent
  split at isSync <;> cases isSync <;> simp only [*] <;> rfl

/-! ## Pending leaves -/

/-- The event tells how a request for a group has ended: the group was left, or an error is
shown. -/
def isOutcome (event : SignalEvent) : Bool :=
  match EventKind.ofCode event.kind with
  | some .groupLeft => !isBlank event.chatId
  | some .error => !event.hasFlag flagFatal && !event.hasFlag flagTransient
  | _ => false

def deactivated (state : Reconciler) (event : SignalEvent) : Finset String :=
  if EventKind.ofCode event.kind = some .groupSyncEnd ∧ event.value ≠ 0 then state.staleGroups
  else ∅

theorem leaves_handlers {handler : Handler} (adapter : AdapterState)
    (notEnd : handler ≠ .endGroupSync) (notLeft : handler ≠ .deactivateGroup) :
    (state.handlers account library moment handler adapter event).pendingGroupLeaves =
      adapter.pendingGroupLeaves := by
  unfold handlers effect
  cases handler with
  | endGroupSync => exact absurd rfl notEnd
  | deactivateGroup => exact absurd rfl notLeft
  | beginContactSync | beginGroupSync | openGroup => rfl
  | addContact =>
      simp only [addContact]
      split <;> rfl
  | endContactSync =>
      simp only [endContactSync]
      split <;> rfl
  | addGroup =>
      simp only [addGroup]
      split <;> rfl
  | showLinkQr | flushPendingReads | queueRead | setAccountIdentity | addGroupMember
  | outgoingAttachmentComplete | cancelOutgoingAttachment | setAvatar =>
      exact moment.others.keepsLeaves _ _ _

theorem leaves_queueFinalRead (adapter : AdapterState) :
    (queueFinalRead (state.handlers account library moment) adapter event).1.pendingGroupLeaves =
      adapter.pendingGroupLeaves := by
  unfold queueFinalRead
  split
  · exact leaves_handlers adapter (by decide) (by decide)
  · rfl

theorem leaves_activateGroup (adapter : AdapterState) (chat : String) :
    (activateGroup (state.handlers account library moment) adapter event
      chat).1.pendingGroupLeaves = adapter.pendingGroupLeaves :=
  leaves_handlers _ (by decide) (by decide)

theorem leaves_deliverDirect (adapter : AdapterState) :
    (deliverDirect (state.handlers account library moment) moment.purple adapter
      event).state.pendingGroupLeaves = adapter.pendingGroupLeaves := by
  unfold deliverDirect
  split
  · rfl
  · rfl
  · dsimp only
    split
    · rfl
    · split
      · rfl
      · exact leaves_queueFinalRead adapter

theorem leaves_deliverGroup (adapter : AdapterState) :
    (deliverGroup (state.handlers account library moment) moment.purple adapter
      event).state.pendingGroupLeaves = adapter.pendingGroupLeaves := by
  unfold deliverGroup
  split
  · rfl
  · rfl
  · have opened : (activateGroup (state.handlers account library moment) adapter event
        (event.chatId.getD "")).1.pendingGroupLeaves = adapter.pendingGroupLeaves :=
      leaves_activateGroup adapter _
    dsimp only
    split
    · exact opened
    · exact (leaves_queueFinalRead _).trans opened

theorem leaves_deliverAttachment (adapter : AdapterState) :
    (deliverAttachment (state.handlers account library moment) moment.purple adapter
      event).state.pendingGroupLeaves = adapter.pendingGroupLeaves := by
  unfold deliverAttachment
  split
  · rfl
  · dsimp only
    cases event.chatId with
    | none =>
        split
        · rfl
        · exact leaves_queueFinalRead _
    | some chat =>
        have opened : (activateGroup (state.handlers account library moment) adapter event
            chat).1.pendingGroupLeaves = adapter.pendingGroupLeaves :=
          leaves_activateGroup adapter chat
        split
        · exact opened
        · exact (leaves_queueFinalRead _).trans opened

theorem leaves_endGroupSync (value : Int) :
    (state.endGroupSync account moment.walk value).1.pendingGroupLeaves =
      if value ≠ 0 then state.pendingGroupLeaves \ state.staleGroups
      else state.pendingGroupLeaves := by
  simp only [endGroupSync, foldl_deactivateGroup _ named_staleGroups]
  split
  next inactive =>
    have none : state.staleGroups = ∅ := by
      rw [staleGroups, Finset.filter_eq_empty_iff]
      intro groupKey _
      have idle : state.groupSync.active = false := by simpa using inactive
      simp [shouldRemove, MarkSweep.isStale, idle]
    simp [none]
  next =>
    split
    · ext groupKey
      simp [moment.walk.mem_listKeys]
    · rfl

theorem leaves_groupLeft :
    (handleGroupLeft (state.handlers account library moment) moment.purple state.toAdapterState
      event).state.pendingGroupLeaves =
      if isBlank event.chatId then state.pendingGroupLeaves
      else state.pendingGroupLeaves.erase (event.chatId.getD "") := by
  unfold handleGroupLeft
  split
  next => rfl
  next named =>
    have nonempty : event.chatId.getD "" ≠ "" := by
      cases isChat : event.chatId with
      | none => simp [isChat, isBlank] at named
      | some chat => simpa [isChat, isBlank] using named
    simp [handlers, effect, deactivateGroup, nonempty]

theorem leaves_shownError :
    (handleShownError (state.handlers account library moment) state.toAdapterState
      event).state.pendingGroupLeaves =
      match event.chatId with
      | none => state.pendingGroupLeaves
      | some chat => state.pendingGroupLeaves.erase chat := by
  unfold handleShownError
  cases isChat : event.chatId with
  | none =>
      dsimp only
      split
      next wrong => simp at wrong
      next =>
        split
        · exact leaves_handlers _ (by decide) (by decide)
        · rfl
  | some chat =>
      dsimp only
      split
      next => rfl
      next notPending =>
        have absent : chat ∉ state.pendingGroupLeaves := by simpa using notPending
        rw [Finset.erase_eq_of_notMem absent]
        split
        · exact leaves_handlers _ (by decide) (by decide)
        · rfl

theorem leaves_dispatched (notLeft : EventKind.ofCode event.kind ≠ some .groupLeft)
    (notError : EventKind.ofCode event.kind ≠ some .error)
    (notEnd : EventKind.ofCode event.kind ≠ some .groupSyncEnd) :
    (state.dispatched account library moment event).state.pendingGroupLeaves =
      state.pendingGroupLeaves := by
  unfold dispatched dispatchEvent
  cases isKind : EventKind.ofCode event.kind with
  | none => rfl
  | some kind =>
      cases kind with
      | groupLeft => exact absurd isKind notLeft
      | error => exact absurd isKind notError
      | groupSyncEnd => exact absurd isKind notEnd
      | message => exact leaves_deliverDirect _
      | groupMessage => exact leaves_deliverGroup _
      | attachment => exact leaves_deliverAttachment _
      | ready =>
          simp only [carryOn, handleReady]
          exact leaves_handlers _ (by decide) (by decide)
      | identityChange =>
          simp only [carryOn, handleIdentityChange]
          split
          · rfl
          · split <;> rfl
      | identityAccepted =>
          simp only [carryOn, handleIdentityAccepted]
          split <;> rfl
      | recovering | typing | receipt | sessionReset | noticeReserved | disconnected => rfl
      | linkQr | account | contactSyncBegin | contact | contactSyncEnd | groupSyncBegin | group
      | groupMember | attachmentSent | avatar =>
          exact leaves_handlers _ (by decide) (by decide)

/-- An event ends the pending leave of the group whose outcome it tells, whichever request
that was for, and of those that it deactivates; no other event ends one. -/
theorem mem_pendingGroupLeaves_afterEvent {groupKey : String} :
    groupKey ∈ (state.afterEvent account library moment event).pendingGroupLeaves ↔
      groupKey ∈ state.pendingGroupLeaves ∧
        ¬(isOutcome event = true ∧ event.chatId = some groupKey) ∧
        groupKey ∉ state.deactivated event := by
  change groupKey ∈ (state.dispatched account library moment event).state.pendingGroupLeaves ↔ _
  by_cases isEnd : EventKind.ofCode event.kind = some .groupSyncEnd
  · have ends : (state.dispatched account library moment event).state.pendingGroupLeaves =
        (state.endGroupSync account moment.walk event.value).1.pendingGroupLeaves := by
      simp only [dispatched, dispatchEvent, isEnd]
      rfl
    rw [ends, leaves_endGroupSync]
    simp only [isOutcome, deactivated, isEnd]
    split <;> simp [*]
  by_cases isLeft : EventKind.ofCode event.kind = some .groupLeft
  · simp only [dispatched, dispatchEvent, isLeft, carryOn, leaves_groupLeft, isOutcome,
      deactivated]
    cases isChat : event.chatId with
    | none => simp [isBlank]
    | some chat =>
        by_cases named : chat = ""
        · simp [isBlank, named]
        · have nonempty : isBlank (some chat) = false := by simpa [isBlank] using named
          simp [nonempty, and_comm, eq_comm]
  by_cases isError : EventKind.ofCode event.kind = some .error
  · simp only [dispatched, dispatchEvent, isError, dispatchError, isOutcome, deactivated]
    split
    next fatal => simp [giveUp, fatal]
    next notFatal =>
      split
      next transient => simp [carryOn, transient]
      next notTransient =>
        simp only [carryOn, leaves_shownError]
        cases isChat : event.chatId with
        | none => simp
        | some chat => simp [notFatal, notTransient, and_comm, eq_comm]
  · rw [leaves_dispatched isLeft isError isEnd]
    have noOutcome : isOutcome event = false := by
      unfold isOutcome
      split
      · exact absurd ‹_› isLeft
      · exact absurd ‹_› isError
      · rfl
    simp [noOutcome, deactivated, isEnd]

/-! ## Reports of a failed leave -/

def reportsFailedLeave (calls : List AdapterCall) : Bool :=
  calls.any fun
    | .notifyError title primary _ =>
        title == "Could not leave Signal group" && primary == "The group was not removed"
    | _ => false

@[simp] theorem reportsFailedLeave_nil : reportsFailedLeave [] = false := rfl

@[simp] theorem reportsFailedLeave_append (first second : List AdapterCall) :
    reportsFailedLeave (first ++ second) =
      (reportsFailedLeave first || reportsFailedLeave second) :=
  List.any_append

theorem not_reports_queueFinalRead (handlers : Handlers) (adapter : AdapterState) :
    reportsFailedLeave (queueFinalRead handlers adapter event).2 = false := by
  unfold queueFinalRead
  split <;> rfl

theorem not_reports_deliverDirect (handlers : Handlers) (purple : Purple)
    (adapter : AdapterState) :
    reportsFailedLeave (deliverDirect handlers purple adapter event).calls = false := by
  unfold deliverDirect
  split
  · rfl
  · rfl
  · dsimp only
    split
    · rfl
    · split
      · rfl
      · exact not_reports_queueFinalRead handlers adapter

theorem not_reports_deliverGroup (handlers : Handlers) (purple : Purple)
    (adapter : AdapterState) :
    reportsFailedLeave (deliverGroup handlers purple adapter event).calls = false := by
  unfold deliverGroup
  split
  · rfl
  · rfl
  · dsimp only
    split
    · rfl
    · exact not_reports_queueFinalRead handlers _

theorem not_reports_deliverAttachment (handlers : Handlers) (purple : Purple)
    (adapter : AdapterState) :
    reportsFailedLeave (deliverAttachment handlers purple adapter event).calls = false := by
  have presented : reportsFailedLeave (presentAttachment purple event) = false := by
    unfold presentAttachment
    dsimp only
    split
    · rfl
    · split <;> rfl
  unfold deliverAttachment
  split
  · rfl
  · dsimp only
    split
    · cases event.chatId <;> rfl
    · simp only [reportsFailedLeave_append, presented, not_reports_queueFinalRead, Bool.or_false]
      cases event.chatId <;> rfl

theorem not_reports_dispatched (notError : EventKind.ofCode event.kind ≠ some .error) :
    reportsFailedLeave (state.dispatched account library moment event).calls = false := by
  unfold dispatched dispatchEvent
  cases isKind : EventKind.ofCode event.kind with
  | none => rfl
  | some kind =>
      cases kind with
      | error => exact absurd isKind notError
      | message => exact not_reports_deliverDirect _ _ _
      | groupMessage => exact not_reports_deliverGroup _ _ _
      | attachment => exact not_reports_deliverAttachment _ _ _
      | ready =>
          simp only [carryOn, handleReady]
          split <;> rfl
      | recovering =>
          simp only [carryOn, handleRecovering]
          split <;> rfl
      | groupLeft =>
          simp only [carryOn, handleGroupLeft]
          split <;> rfl
      | typing =>
          simp only [carryOn, handleTyping]
          split
          · rfl
          · split <;> rfl
      | identityChange =>
          simp only [carryOn, handleIdentityChange]
          split
          · rfl
          · split
            · rfl
            · simp only [reportsFailedLeave_append]
              split <;> rfl
      | identityAccepted =>
          simp only [carryOn, handleIdentityAccepted]
          split <;> rfl
      | sessionReset =>
          simp only [carryOn, handleSessionReset]
          split <;> rfl
      | receipt | noticeReserved | disconnected | linkQr | account | contactSyncBegin | contact
      | contactSyncEnd | groupSyncBegin | group | groupMember | groupSyncEnd | attachmentSent
      | avatar => rfl

theorem outcome_of_reportsFailedLeave
    (reports : reportsFailedLeave (state.dispatched account library moment event).calls = true) :
    EventKind.ofCode event.kind = some .error ∧ isOutcome event = true ∧
      ∃ groupKey ∈ state.pendingGroupLeaves, event.chatId = some groupKey := by
  by_cases isError : EventKind.ofCode event.kind = some .error
  · refine ⟨isError, ?_⟩
    simp only [dispatched, dispatchEvent, isError, dispatchError] at reports
    split at reports
    next => cases reports
    next notFatal =>
      split at reports
      next => cases reports
      next notTransient =>
        refine ⟨by simp [isOutcome, isError, notFatal, notTransient], ?_⟩
        simp only [carryOn, handleShownError] at reports
        split at reports
        next pending =>
          cases isChat : event.chatId with
          | none => simp [isChat] at pending
          | some chat => exact ⟨chat, by simpa [isChat] using pending, rfl⟩
        next => split at reports <;> cases reports
  · rw [not_reports_dispatched isError] at reports
    cases reports

end Reconciler

end SignalPurple
