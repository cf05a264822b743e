import Mathlib.Data.Finset.Basic
import SignalPurple.Adapter.Event

/-! # Dispatch of one event

`signal_dispatch_event` and the routines it calls. It has two results: whether the event
source is kept, and whether the event was accepted as a projection.

The calls that leave the adapter are listed. Functions of the adapter that reconcile
snapshots with the buddy list, open chats, move files or queue read receipts are taken as
arbitrary changes of the state; no result of the dispatch depends on them.
-/

namespace SignalPurple

structure AdapterState where
  closing : Bool := false
  hasCore : Bool := true
  groupSnapshotComplete : Bool := false
  groupSyncFallbackTimer : Bool := false
  activeGroupKeys : Finset String := ∅
  pendingGroupLeaves : Finset String := ∅
  identityChangesSeen : Finset String := ∅
  pendingIdentityChanges : Finset String := ∅
  outgoingAttachments : Finset UInt64 := ∅
  nextRequestId : UInt64 := 1

/-- A function of the adapter whose effect on the state is not followed. -/
inductive Handler where
  | showLinkQr
  | flushPendingReads
  | queueRead
  | setAccountIdentity
  | beginContactSync
  | addContact
  | endContactSync
  | beginGroupSync
  | addGroup
  | addGroupMember
  | endGroupSync
  | openGroup
  | deactivateGroup
  | outgoingAttachmentComplete
  | cancelOutgoingAttachment
  | setAvatar
  deriving DecidableEq

abbrev Handlers := Handler → AdapterState → SignalEvent → AdapterState

inductive ConnectionError where
  | network
  | other
  deriving DecidableEq

inductive AdapterCall where
  | called (handler : Handler)
  | updateProgress (text : String) (step : Nat)
  | closeLinkQr
  | setConnected
  | addGroupSyncTimer
  | removeGroupSyncTimer
  | gotTyping (peer : String)
  | gotTypingStopped (peer : String)
  | gotIm (peer markup : String) (timestamp : UInt64)
  | writeIm (markup : String) (timestamp : UInt64)
  | gotChat (peer markup : String) (outgoing : Bool) (timestamp : UInt64)
  | deliverInlineImage (peer filename : String) (timestamp : UInt64)
  | requestTransfer (peer filename : String)
  | notifyInfo (title : String) (primary secondary : Option String)
  | notifyWarning (title primary secondary : String)
  | notifyError (title primary secondary : String)
  | connectionError (reason : ConnectionError) (text : String)
  | debug (text : String)
  | dismissIdentity (requestId : UInt64) (peer : String)
  | ackMessage (requestId : UInt64)
  deriving DecidableEq

/-- What libpurple and GLib answer while one event is dispatched. -/
structure Purple where
  clock : UInt64
  escape : String → String
  basename : String → String
  displayTitle : String → String
  privacyCheck : String → Bool
  isUserIgnored : String → String → Bool
  /-- The image was shown in the conversation. -/
  inlineImageDelivered : Bool
  transferCreated : Bool
  dismissStatus : Int
  ackStatus : Int

def plainPurple : Purple where
  clock := 0
  escape := id
  basename := id
  displayTitle := id
  privacyCheck := fun _ => true
  isUserIgnored := fun _ _ => false
  inlineImageDelivered := false
  transferCreated := true
  dismissStatus := 0
  ackStatus := 0

structure Delivered where
  state : AdapterState
  calls : List AdapterCall
  accepted : Bool

/-- A missing text and an empty one look the same to the adapter. -/
def isBlank : Option String → Bool
  | none => true
  | some text => text == ""

section Dispatch

variable (handlers : Handlers) (purple : Purple)

def handle (handler : Handler) (state : AdapterState) (event : SignalEvent) : Delivered where
  state := handlers handler state event
  calls := [.called handler]
  accepted := true

def eventTimestamp (event : SignalEvent) : UInt64 :=
  if 0 < event.timestampMs then event.timestampMs / 1000 else purple.clock

/-- Own messages are always shown. The chat is the one of the conversation, if there is
one; it is asked only about an event that names a chat itself. -/
def eventCanPresent (conversation : Option String) (event : SignalEvent) : Bool :=
  event.hasFlag flagOutgoing ||
    if event.chatId.isNone then purple.privacyCheck (event.peerId.getD "")
    else
      match conversation with
      | none => true
      | some chat => !purple.isUserIgnored chat (event.peerId.getD "")

/-- Only the final event of a message carries an id, and only it is read. -/
def queueFinalRead (state : AdapterState) (event : SignalEvent) : AdapterState × List AdapterCall :=
  if event.requestId ≠ 0 then (handlers .queueRead state event, [.called .queueRead])
  else (state, [])

/-! ## Messages -/

def deliverDirect (state : AdapterState) (event : SignalEvent) : Delivered :=
  match isBlank event.peerId, event.text with
  | true, _ | _, none =>
      { state
        calls := [.debug
          "Rejected a malformed direct-message projection without acknowledging it\n"]
        accepted := false }
  | false, some text =>
      let peer := event.peerId.getD ""
      if !eventCanPresent purple none event then { state, calls := [], accepted := true }
      else if event.hasFlag flagOutgoing then
        { state, calls := [.writeIm (purple.escape text) (eventTimestamp purple event)]
          accepted := true }
      else
        let read := queueFinalRead handlers state event
        { state := read.1
          calls := .gotIm peer (purple.escape text) (eventTimestamp purple event) :: read.2
          accepted := true }

/-- The backend emits group content only for members, so the group is active. -/
def activateGroup (state : AdapterState) (event : SignalEvent) (chat : String) :
    AdapterState × List AdapterCall :=
  (handlers .openGroup
    { state with activeGroupKeys := insert chat state.activeGroupKeys } event,
    [.called .openGroup])

def deliverGroup (state : AdapterState) (event : SignalEvent) : Delivered :=
  match isBlank event.chatId || isBlank event.peerId, event.text with
  | true, _ | _, none =>
      { state
        calls := [.debug
          "Rejected a malformed group-message projection without acknowledging it\n"]
        accepted := false }
  | false, some text =>
      let opened := activateGroup handlers state event (event.chatId.getD "")
      if !eventCanPresent purple event.chatId event then
        { state := opened.1, calls := opened.2, accepted := true }
      else
        let read := queueFinalRead handlers opened.1 event
        { state := read.1
          calls := opened.2 ++
            .gotChat (event.peerId.getD "") (purple.escape text) (event.hasFlag flagOutgoing)
              (eventTimestamp purple event) :: read.2
          accepted := true }

def maxAttachmentDeliveryBytes : Nat := 50 * 1024 * 1024

def attachmentIsMalformed (event : SignalEvent) : Bool :=
  isBlank event.peerId || event.chatId == some "" || event.data.isNone ||
    event.dataLen == 0 || decide (maxAttachmentDeliveryBytes < event.dataLen)

def attachmentFilename (event : SignalEvent) : String :=
  let filename := purple.basename
    (if isBlank event.title then "signal-attachment" else event.title.getD "")
  if filename = "." ∨ filename = ".." ∨ filename = "/" then "signal-attachment" else filename

/-- Shown inline, offered as a transfer, or reported as impossible. -/
def presentAttachment (event : SignalEvent) : List AdapterCall :=
  let peer := event.peerId.getD ""
  let filename := attachmentFilename purple event
  if purple.inlineImageDelivered then
    [.deliverInlineImage peer filename (eventTimestamp purple event)]
  else if purple.transferCreated then [.requestTransfer peer filename]
  else
    [.notifyError "Signal attachment unavailable" "Could not create a receive transfer"
      "Restart Pidgin, then ask the sender to resend the attachment."]

def deliverAttachment (state : AdapterState) (event : SignalEvent) : Delivered :=
  if attachmentIsMalformed event then
    { state
      calls := [.debug "Rejected a malformed or oversized Signal attachment projection\n"]
      accepted := false }
  else
    let opened :=
      match event.chatId with
      | some chat => activateGroup handlers state event chat
      | none => (state, [])
    if !eventCanPresent purple event.chatId event then
      { state := opened.1, calls := opened.2, accepted := true }
    else
      let read := queueFinalRead handlers opened.1 event
      { state := read.1
        calls := opened.2 ++ presentAttachment purple event ++ read.2
        accepted := true }

/-! ## Other events -/

def handleLinkQr (state : AdapterState) (event : SignalEvent) : Delivered where
  state := handlers .showLinkQr state event
  calls := [.called .showLinkQr, .updateProgress "Waiting for your phone" 1]
  accepted := true

def handleReady (state : AdapterState) (event : SignalEvent) : Delivered :=
  let startsTimer := !state.groupSnapshotComplete && !state.groupSyncFallbackTimer
  { state := handlers .flushPendingReads
      { state with groupSyncFallbackTimer := state.groupSyncFallbackTimer || startsTimer } event
    calls := [.closeLinkQr, .updateProgress "Signal messages synchronized" 2, .setConnected] ++
      (if startsTimer then [.addGroupSyncTimer] else []) ++ [.called .flushPendingReads]
    accepted := true }

def handleRecovering (state : AdapterState) : Delivered where
  state := { state with groupSnapshotComplete := false, groupSyncFallbackTimer := false }
  calls := (if state.groupSyncFallbackTimer then [.removeGroupSyncTimer] else []) ++
    [.debug "Signal connection interrupted; recovering automatically\n"]
  accepted := true

def handleGroupLeft (state : AdapterState) (event : SignalEvent) : Delivered :=
  if isBlank event.chatId then { state, calls := [], accepted := true }
  else
    { state := handlers .deactivateGroup state event
      calls := [.called .deactivateGroup, .debug "Completed remote Signal group leave\n",
        .notifyInfo "Signal group left" (some (purple.displayTitle (event.chatId.getD "")))
          (some "The group was left on Signal and removed from the chat list.")]
      accepted := true }

def handleTyping (state : AdapterState) (event : SignalEvent) : Delivered where
  state
  calls :=
    match event.peerId with
    | none => []
    | some peer => if event.value ≠ 0 then [.gotTyping peer] else [.gotTypingStopped peer]
  accepted := true

def handleIdentityChange (state : AdapterState) (event : SignalEvent) : Delivered :=
  let peer := event.peerId.getD ""
  if isBlank event.peerId || decide (peer ∈ state.identityChangesSeen) then
    { state, calls := [], accepted := true }
  else
    let seen := { state with identityChangesSeen := insert peer state.identityChangesSeen }
    if event.value ≠ 0 then
      { state :=
          { seen with pendingIdentityChanges := insert peer state.pendingIdentityChanges }
        calls := [.notifyWarning "Signal safety number changed"
          "Messages to a verified Signal contact are blocked"
          ("Verify the contact through another channel, then right-click the buddy and " ++
            "choose “Accept changed Signal identity”.")]
        accepted := true }
    else
      { state := { seen with nextRequestId := state.nextRequestId + 1 }
        calls := [.notifyInfo "Signal safety number changed"
            (some "Communication continued for an unverified contact")
            (some ("Verify the safety number in an official Signal client before sharing " ++
              "sensitive information.")),
          .dismissIdentity state.nextRequestId peer] ++
          (if purple.dismissStatus ≠ 0 then
            [.debug ("Could not dismiss identity notice: " ++ toString purple.dismissStatus ++
              "\n")]
          else [])
        accepted := true }

def handleIdentityAccepted (state : AdapterState) (event : SignalEvent) : Delivered :=
  match event.peerId with
  | none => { state, calls := [], accepted := true }
  | some peer =>
      { state :=
          { state with
            pendingIdentityChanges := state.pendingIdentityChanges.erase peer
            identityChangesSeen := state.identityChangesSeen.erase peer }
        calls := [.notifyInfo "Signal identity accepted" (some "Messaging can continue")
          (some ("The contact is now unverified until its safety number is verified " ++
            "again."))]
        accepted := true }

def handleSessionReset (state : AdapterState) (event : SignalEvent) : Delivered where
  state
  calls :=
    if event.peerId.isNone then []
    else [.notifyInfo "Signal session reset" (some "Session reset successfully")
      (some "A fresh Signal session will be established on the next message.")]
  accepted := true

/-- An error that ends neither the connection nor goes to the debug log. -/
def handleShownError (state : AdapterState) (event : SignalEvent) : Delivered :=
  let chat := event.chatId.getD ""
  if event.chatId.isSome && decide (chat ∈ state.pendingGroupLeaves) then
    { state := { state with pendingGroupLeaves := state.pendingGroupLeaves.erase chat }
      calls := [.debug "Remote Signal group leave failed\n",
        .notifyError "Could not leave Signal group" "The group was not removed"
          (event.text.getD "Unknown error")]
      accepted := true }
  else if event.requestId ≠ 0 ∧ event.requestId ∈ state.outgoingAttachments then
    handle handlers .cancelOutgoingAttachment state event
  else
    { state
      calls := [.notifyError "signal-purple"
        (if isBlank event.title then "Signal operation failed" else event.title.getD "")
        (event.text.getD "")]
      accepted := true }

/-! ## The dispatcher -/

structure Dispatched extends Delivered where
  /-- The return value: whether the event source goes on. -/
  keep : Bool

def giveUp (state : AdapterState) (reason : ConnectionError) (text : String) : Dispatched where
  state
  calls := [.connectionError reason text]
  accepted := false
  keep := false

def carryOn (delivered : Delivered) : Dispatched := { delivered with keep := true }

def dispatchError (state : AdapterState) (event : SignalEvent) : Dispatched :=
  if event.hasFlag flagFatal then
    giveUp state .other (event.text.getD "Signal backend failed")
  else if event.hasFlag flagTransient then
    carryOn
      { state
        calls := [.debug ("Transient Signal operation failed: " ++
          event.text.getD "unknown error" ++ "\n")]
        accepted := true }
  else carryOn (handleShownError handlers state event)

def dispatchEvent (state : AdapterState) (event : SignalEvent) : Dispatched :=
  match EventKind.ofCode event.kind with
  | some .linkQr => carryOn (handleLinkQr handlers state event)
  | some .ready => carryOn (handleReady handlers state event)
  | some .recovering => carryOn (handleRecovering state)
  | some .account => carryOn (handle handlers .setAccountIdentity state event)
  | some .contactSyncBegin => carryOn (handle handlers .beginContactSync state event)
  | some .contact => carryOn (handle handlers .addContact state event)
  | some .contactSyncEnd => carryOn (handle handlers .endContactSync state event)
  | some .groupSyncBegin => carryOn (handle handlers .beginGroupSync state event)
  | some .group => carryOn (handle handlers .addGroup state event)
  | some .groupMember => carryOn (handle handlers .addGroupMember state event)
  | some .groupSyncEnd => carryOn (handle handlers .endGroupSync state event)
  | some .message => carryOn (deliverDirect handlers purple state event)
  | some .groupMessage => carryOn (deliverGroup handlers purple state event)
  | some .groupLeft => carryOn (handleGroupLeft handlers purple state event)
  | some .attachment => carryOn (deliverAttachment handlers purple state event)
  | some .attachmentSent => carryOn (handle handlers .outgoingAttachmentComplete state event)
  | some .typing => carryOn (handleTyping state event)
  | some .receipt => carryOn { state, calls := [], accepted := true }
  | some .identityChange => carryOn (handleIdentityChange purple state event)
  | some .identityAccepted => carryOn (handleIdentityAccepted state event)
  | some .sessionReset => carryOn (handleSessionReset state event)
  | some .avatar => carryOn (handle handlers .setAvatar state event)
  | some .noticeReserved =>
      carryOn { state, calls := [.notifyInfo "signal-purple" event.title event.text]
                accepted := true }
  | some .error => dispatchError handlers state event
  | some .disconnected =>
      giveUp state .network (event.text.getD "Signal connection ended unexpectedly")
  | none =>
      carryOn
        { state, calls := [.debug ("Unknown backend event " ++ toString event.kind ++ "\n")]
          accepted := false }

end Dispatch

end SignalPurple
