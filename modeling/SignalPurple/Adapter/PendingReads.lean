import SignalPurple.Adapter.Event
import SignalPurple.Core.Attachment.Ffi
import SignalPurple.Foundation.Machine
import SignalPurple.Foundation.TableOrder

/-! # Pending read receipts

A message that was shown is read once its conversation has the focus. Until the core takes the
read receipt, the adapter keeps it in a hash table. A full command queue arms a timer; a core
that is not ready announces when it is.
-/

namespace SignalPurple

def maxPendingReads : Nat := 4096

inductive ReadPlace where
  | group (key : String)
  | direct (peer : String)
  deriving DecidableEq

/-- What `signal_pending_read_equal` compares. -/
structure ReadKey where
  peerId : String
  chatId : Option String
  timestamp : UInt64
  deriving DecidableEq

namespace ReadKey

def place (key : ReadKey) : ReadPlace :=
  match key.chatId with
  | some group => .group group
  | none => .direct key.peerId

/-- `signal_pending_read_matches`. -/
def isIn (key : ReadKey) (directPeer groupKey : Option String) : Bool :=
  match key.chatId with
  | some group => groupKey == some group
  | none => directPeer == some key.peerId

end ReadKey

structure SignalPendingRead extends ReadKey where
  eligible : Bool := false
  deriving DecidableEq

structure ReadRun where
  pendingReads : List SignalPendingRead := []
  nextRequestId : UInt64 := 1
  /-- `pending_read_retry_id` is not zero. -/
  retryArmed : Bool := false
  limitWarned : Bool := false
  closing : Bool := false
  /-- There is a core, and a function that marks its messages read. -/
  core : Bool
  deriving DecidableEq

inductive ReadEntry where
  | queued (key : ReadKey) (focused : Bool)
  /-- A conversation has the focus when a message is queued for it or when it is updated. -/
  | focus (place : ReadPlace)
  | markRead (key : ReadKey) (status : SignalStatus)
  | deactivated (group : String)
  deriving DecidableEq

/-- How GLib walks the table and the core answers, while one callback runs. -/
structure ReadMoment where
  order : TableOrder SignalPendingRead := .asAdded
  markRead : UInt64 → ReadKey → SignalStatus

inductive ConversationType where
  | im
  | chat (hasLeft isKnownGroup : Bool)
  | other

structure UpdatedConversation where
  type : ConversationType
  name : String
  hasFocus : Bool
  ofAccount : Bool

namespace UpdatedConversation

def directPeer (conversation : UpdatedConversation) : Option String :=
  match conversation.type with
  | .im => some conversation.name
  | _ => none

def groupKey (conversation : UpdatedConversation) : Option String :=
  match conversation.type with
  | .chat hasLeft isKnownGroup =>
      if !hasLeft && isKnownGroup then some conversation.name else none
  | _ => none

def places (conversation : UpdatedConversation) : List ReadPlace :=
  match conversation.type with
  | .im => [.direct conversation.name]
  | .chat _ _ => [.group conversation.name]
  | .other => []

end UpdatedConversation

inductive ReadLabel where
  | queueRead (moment : ReadMoment) (conversationFocus : Option Bool) (event : SignalEvent)
  | conversationUpdated (moment : ReadMoment) (conversation : UpdatedConversation)
  | retryTimer (moment : ReadMoment)
  | ready (moment : ReadMoment)
  | deactivateGroup (groupKey : String)
  /-- A request of another kind takes an identifier. -/
  | otherRequest
  | close

namespace ReadRun

def markEligible (run : ReadRun) (directPeer groupKey : Option String) : ReadRun :=
  { run with
    pendingReads := run.pendingReads.map fun read =>
      if read.isIn directPeer groupKey then { read with eligible := true } else read }

def remove (run : ReadRun) (key : ReadKey) : ReadRun :=
  { run with pendingReads := run.pendingReads.filter (·.toReadKey ≠ key) }

def schedulePendingReadRetry (run : ReadRun) : ReadRun :=
  if !run.retryArmed && !run.closing && run.core then { run with retryArmed := true } else run

def sendRead (moment : ReadMoment) (run : ReadRun) (key : ReadKey) :
    SignalStatus × ReadRun × List ReadEntry :=
  if run.core then
    let status := moment.markRead run.nextRequestId key
    (status, { run with nextRequestId := run.nextRequestId + 1 }, [.markRead key status])
  else (.notReady, run, [])

/-- The loop of `signal_flush_pending_reads`. -/
def flushLoop (moment : ReadMoment) : List SignalPendingRead → ReadRun → ReadRun × List ReadEntry
  | [], run => (run, [])
  | read :: later, run =>
      if read.eligible then
        match run.sendRead moment read.toReadKey with
        | (.queueFull, sent, called) => (sent.schedulePendingReadRetry, called)
        | (.notReady, sent, called) => (sent, called)
        | (_, sent, called) =>
            let rest := flushLoop moment later (sent.remove read.toReadKey)
            (rest.1, called ++ rest.2)
      else flushLoop moment later run

def resetWarning (run : ReadRun) : ReadRun :=
  if run.pendingReads.length < maxPendingReads then { run with limitWarned := false } else run

def flushPendingReads (moment : ReadMoment) (run : ReadRun) : ReadRun × List ReadEntry :=
  let flushed := flushLoop moment (moment.order.list run.pendingReads) run
  (flushed.1.resetWarning, flushed.2)

/-- The part of `signal_queue_read` for a message that is not pending yet. -/
def addRead (moment : ReadMoment) (run : ReadRun) (key : ReadKey) (focused : Bool) :
    ReadRun × List ReadEntry :=
  let room := if maxPendingReads ≤ run.pendingReads.length then run.flushPendingReads moment
    else (run, [])
  if maxPendingReads ≤ room.1.pendingReads.length then ({ room.1 with limitWarned := true }, room.2)
  else
    let added := { room.1 with
      pendingReads := room.1.pendingReads ++ [{ toReadKey := key, eligible := focused }] }
    let flushed := if focused then added.flushPendingReads moment else (added, [])
    (flushed.1, room.2 ++ .queued key focused :: flushed.2)

/-- `signal_queue_read` for an incoming message. -/
def queueIncoming (moment : ReadMoment) (run : ReadRun) (key : ReadKey) (focused : Bool) :
    ReadRun × List ReadEntry :=
  let known := run.pendingReads.any (·.toReadKey = key)
  let marked := if focused then
    run.markEligible (if key.chatId.isNone then some key.peerId else none) key.chatId
  else run
  let seen := if focused then [key.place].map ReadEntry.focus else []
  if known then
    let flushed := if focused then marked.flushPendingReads moment else (marked, [])
    (flushed.1, seen ++ flushed.2)
  else
    let added := marked.addRead moment key focused
    (added.1, seen ++ added.2)

/-- Callers pass the conversation of the event: that of its group if it has one, or else that
of its peer. -/
def queueRead (moment : ReadMoment) (run : ReadRun) (conversationFocus : Option Bool)
    (event : SignalEvent) : ReadRun × List ReadEntry :=
  match event.peerId with
  | none => (run, [])
  | some peerId =>
      if event.hasFlag flagOutgoing || event.timestampMs == 0 then (run, [])
      else
        run.queueIncoming moment
          { peerId, chatId := event.chatId, timestamp := event.timestampMs }
          (conversationFocus == some true)

def conversationUpdated (moment : ReadMoment) (run : ReadRun) (conversation : UpdatedConversation) :
    ReadRun × List ReadEntry :=
  if run.closing || !conversation.hasFocus || !conversation.ofAccount then (run, [])
  else
    let marked := run.markEligible conversation.directPeer conversation.groupKey
    let flushed := marked.flushPendingReads moment
    (flushed.1, conversation.places.map .focus ++ flushed.2)

/-- The timer is disarmed before the attempt, so that the attempt may arm it again. -/
def retryPendingReads (moment : ReadMoment) (run : ReadRun) : ReadRun × List ReadEntry :=
  let fired := { run with retryArmed := false }
  if !fired.closing && fired.core then fired.flushPendingReads moment else (fired, [])

def removeGroupPendingReads (run : ReadRun) (groupKey : String) : ReadRun :=
  { run with pendingReads := run.pendingReads.filter (·.chatId ≠ some groupKey) }.resetWarning

def step (run : ReadRun) : ReadLabel → Option (ReadRun × List ReadEntry)
  | .queueRead moment conversationFocus event =>
      some (run.queueRead moment conversationFocus event)
  | .conversationUpdated moment conversation => some (run.conversationUpdated moment conversation)
  | .retryTimer moment => if run.retryArmed then some (run.retryPendingReads moment) else none
  | .ready moment => some (run.flushPendingReads moment)
  | .deactivateGroup groupKey =>
      some (run.removeGroupPendingReads groupKey, [.deactivated groupKey])
  | .otherRequest => some ({ run with nextRequestId := run.nextRequestId + 1 }, [])
  | .close => some ({ run with closing := true }, [])

def machine (core : Bool) : Machine ReadRun ReadLabel ReadEntry where
  initial := { core }
  step := step

end ReadRun

end SignalPurple
