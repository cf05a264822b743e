import SignalPurple.Adapter.Transfers.Library
import SignalPurple.Foundation.Machine
import SignalPurple.Foundation.TableOrder

/-! # Outgoing file transfers

What the plugin does with the transfers of a connection. They can be cancelled by the user at
any time, they outlive the account, and libpurple may drop one without a word to the plugin.
Every pointer that the code follows is looked up here, so that a transfer, a context or a
connection that was freed is a fault.
-/

namespace SignalPurple

namespace Transfers

open Program

/-! ## Contexts -/

def derefContext (context : ContextId) : TransferProgram OutgoingAttachment := do
  let state ← read
  require (state.contexts context)

def setContext (context : ContextId) (attachment : OutgoingAttachment) : TransferProgram Unit := do
  let _ ← derefContext context
  write fun state =>
    { state with contexts := Function.update state.contexts context (some attachment) }

def derefConnection : TransferProgram TransferConnection := do
  let state ← read
  require state.connection

def setConnection (change : TransferConnection → TransferConnection) : TransferProgram Unit := do
  let connection ← derefConnection
  write fun state => { state with connection := some (change connection) }

def signalOutgoingAttachmentDestroy (context : ContextId) : TransferProgram Unit := do
  let _ ← derefContext context
  write fun state => { state with contexts := Function.update state.contexts context none }

/-- `g_hash_table_remove` on the contexts. -/
def removeContext (context : ContextId) : TransferProgram Unit :=
  setConnection fun connection =>
    { connection with
      outgoingAttachmentContexts :=
        connection.outgoingAttachmentContexts.filter (· ≠ context) }

/-- The first transfer that points to the context is cut off from it. -/
def unlinkXfer (context : ContextId) : List XferId → TransferProgram Unit
  | [] => pure ()
  | xfer :: later => do
      let object ← derefXfer xfer
      if object.data = some context then setXfer xfer fun object => { object with data := none }
      else unlinkXfer context later

variable (purple : XferLibrary)

/-- `g_hash_table_remove` on the queued transfers, whose values are references. -/
def removeOutgoing (requestId : UInt64) : TransferProgram Unit := do
  let connection ← derefConnection
  match connection.outgoingAttachments.lookup requestId with
  | none => pure ()
  | some xfer =>
      setConnection fun connection =>
        { connection with
          outgoingAttachments := connection.outgoingAttachments.filter (·.1 ≠ requestId) }
      purple.unref xfer

/-- `g_hash_table_insert`, which drops the reference that it replaces. -/
def insertOutgoing (requestId : UInt64) (xfer : XferId) : TransferProgram Unit := do
  removeOutgoing purple requestId
  setConnection fun connection =>
    { connection with
      outgoingAttachments := connection.outgoingAttachments ++ [(requestId, xfer)] }

/-! ## Callbacks of a transfer -/

def signalOutgoingAttachmentFree (xfer : XferId) : TransferProgram Unit := do
  let object ← derefXfer xfer
  match object.data with
  | none => pure ()
  | some context =>
      setXfer xfer fun object => { object with data := none }
      let attachment ← derefContext context
      if attachment.connected then
        removeContext context
        if attachment.requestId ≠ 0 then removeOutgoing purple attachment.requestId
      signalOutgoingAttachmentDestroy context

def signalOutgoingAttachmentCancel (xfer : XferId) : TransferProgram Unit := do
  let object ← derefXfer xfer
  match object.data with
  | none => pure ()
  | some context =>
      let attachment ← derefContext context
      if attachment.connected then
        let connection ← derefConnection
        if !connection.closing && attachment.requestId ≠ 0 then
          emit (.coreCancel attachment.requestId)
  signalOutgoingAttachmentFree purple xfer

def outgoingCallbacks : XferCallbacks where
  endFnc := signalOutgoingAttachmentFree purple
  requestDeniedFnc := signalOutgoingAttachmentFree purple
  cancelSendFnc := signalOutgoingAttachmentCancel purple

def cancelXfer (status : XferStatus) (xfer : XferId) : TransferProgram Unit :=
  purple.cancel (outgoingCallbacks purple) status xfer

/-! ## The connection -/

def signalOutgoingAttachmentDetach (context : ContextId) : TransferProgram Unit := do
  let state ← read
  unlinkXfer context (purple.getAll state)
  let attachment ← derefContext context
  setContext context { attachment with connected := false }
  signalOutgoingAttachmentDestroy context

/-- A new context, which the transfer and the connection point to. -/
def addContext (xfer : XferId) (recipient : String) (group : Bool) : TransferProgram Unit := do
  let state ← read
  write fun state =>
    { state with
      contexts := Function.update state.contexts state.nextContext (some { recipient, group })
      nextContext := state.nextContext + 1 }
  setXfer xfer fun object => { object with data := some state.nextContext }
  setConnection fun connection =>
    { connection with
      outgoingAttachmentContexts :=
        connection.outgoingAttachmentContexts ++ [state.nextContext] }

def signalNewAttachmentXfer (recipient : String) (group : Bool) : TransferProgram Unit := do
  let state ← read
  match state.connection with
  | none => pure ()
  | some connection =>
      if connection.closing then pure ()
      else
        let created ← purple.new
        match created with
        | none => pure ()
        | some xfer => addContext xfer recipient group

def completeXfer (xfer : XferId) : TransferProgram Unit := do
  let object ← derefXfer xfer
  purple.setBytesSent xfer object.size
  purple.setCompleted xfer
  purple.finish (outgoingCallbacks purple) xfer

def signalOutgoingAttachmentComplete (requestId : UInt64) : TransferProgram Unit := do
  let connection ← derefConnection
  emit (.sent requestId)
  if requestId ≠ 0 then
    match connection.outgoingAttachments.lookup requestId with
    | none => pure ()
    | some xfer => completeXfer purple xfer

def cancelWithError (status : XferStatus) (xfer : XferId) (message : String) :
    TransferProgram Unit := do
  purple.error xfer message
  cancelXfer purple status xfer

def signalOutgoingAttachmentFailed (requestId : UInt64) (text : Option String) :
    TransferProgram Unit := do
  let connection ← derefConnection
  if requestId ≠ 0 then
    match connection.outgoingAttachments.lookup requestId with
    | none => pure ()
    | some xfer =>
        cancelWithError purple .cancelRemote xfer (text.getD "Signal attachment send failed")

def cancelActive (xfer : XferId) : TransferProgram Unit := do
  let object ← derefXfer xfer
  if !object.status.isEnded then cancelXfer purple .cancelLocal xfer

def closeContext (context : ContextId) : TransferProgram Unit := do
  removeContext context
  signalOutgoingAttachmentDetach purple context

/-- The tables of the connection hold the references that are left. -/
def signalConnectionFree : TransferProgram Unit := do
  let connection ← derefConnection
  setConnection fun connection => { connection with outgoingAttachments := [] }
  forEach (fun entry => purple.unref entry.2) connection.outgoingAttachments
  let _ ← derefConnection
  write fun state => { state with connection := none }

/-- The orders in which a close goes through the tables of the connection. -/
structure CloseOrders where
  transfers : TableOrder (UInt64 × XferId)
  contexts : TableOrder ContextId

def signalClose (orders : CloseOrders) : TransferProgram Unit := do
  setConnection fun connection => { connection with closing := true }
  let connection ← derefConnection
  let activeTransfers := (orders.transfers.list connection.outgoingAttachments).map Prod.snd
  forEach purple.ref activeTransfers
  forEach (cancelActive purple) activeTransfers
  forEach purple.unref activeTransfers
  let connection ← derefConnection
  forEach (closeContext purple) (orders.contexts.list connection.outgoingAttachmentContexts)
  signalConnectionFree purple

/-! ## The start of a transfer -/

inductive InspectError where
  /-- `G_IO_ERROR_INVALID_DATA` or `G_IO_ERROR_MESSAGE_TOO_LARGE`. -/
  | outOfBounds
  | other (message : String)

def InspectError.message : InspectError → String
  | .outOfBounds => "Signal attachments must be between 1 byte and 25 MiB"
  | .other message => message

/-- What the environment decides while a transfer is started. -/
structure InitOutcome where
  /-- `signal_group_can_send`. -/
  canSend : Bool
  /-- `signal_inspect_attachment_file`. -/
  inspected : Except InspectError Nat
  /-- A handler of the status change closes the account. -/
  closes : Option CloseOrders := none
  opens : Bool
  /-- The core takes the request. It refuses the number zero. -/
  accepts : Bool

def statusHandlers (closes : Option CloseOrders) : TransferProgram Unit :=
  closes.elim (pure ()) (signalClose purple)

def acceptAttachment (xfer : XferId) (requestId : UInt64) : TransferProgram Unit := do
  emit (.queued requestId xfer)
  purple.ref xfer
  insertOutgoing purple requestId xfer
  purple.unref xfer

def rejectAttachment (xfer : XferId) (context : ContextId) (attachment : OutgoingAttachment) :
    TransferProgram Unit := do
  setContext context { attachment with requestId := 0 }
  cancelWithError purple .cancelLocal xfer "The Signal attachment could not be queued"
  purple.unref xfer

/-- The request is queued, or the transfer is cancelled. -/
def queueAttachment (xfer : XferId) (context : ContextId) (accepts : Bool) :
    TransferProgram Unit := do
  let attachment ← derefContext context
  if !attachment.connected then fault
  else if accepts && attachment.requestId ≠ 0 then
    acceptAttachment purple xfer attachment.requestId
  else rejectAttachment purple xfer context attachment

/-- What follows the start: the callbacks of a cancelled transfer have cut it off. -/
def queueStarted (xfer : XferId) (accepts : Bool) : TransferProgram Unit := do
  let object ← derefXfer xfer
  match object.data with
  | none => purple.unref xfer
  | some context => queueAttachment purple xfer context accepts

/-- A file that may be sent: the transfer gets its size and its number, and is started. -/
def startAttachment (xfer : XferId) (context : ContextId) (attachment : OutgoingAttachment)
    (connection : TransferConnection) (size : Nat) (outcome : InitOutcome) :
    TransferProgram Unit := do
  purple.setSize xfer size
  setContext context { attachment with requestId := connection.nextRequestId }
  setConnection fun connection =>
    { connection with nextRequestId := connection.nextRequestId + 1 }
  purple.ref xfer
  purple.start (outgoingCallbacks purple) (statusHandlers purple outcome.closes) outcome.opens xfer
  queueStarted purple xfer outcome.accepts

def signalOutgoingAttachmentInit (xfer : XferId) (outcome : InitOutcome) :
    TransferProgram Unit := do
  let object ← derefXfer xfer
  match object.data with
  | none => cancelXfer purple .cancelLocal xfer
  | some context =>
      let attachment ← derefContext context
      if !attachment.connected then cancelXfer purple .cancelLocal xfer
      else
        let connection ← derefConnection
        if connection.closing then cancelXfer purple .cancelLocal xfer
        else if attachment.group && !outcome.canSend then
          cancelWithError purple .cancelLocal xfer "This Signal group is no longer active"
        else
          match outcome.inspected with
          | .error error => cancelWithError purple .cancelLocal xfer error.message
          | .ok size => startAttachment purple xfer context attachment connection size outcome

/-! ## Runs -/

end Transfers

inductive TransferLabel where
  | login
  | newXfer (recipient : String) (group : Bool)
  /-- The user chose a file, and libpurple calls the plugin. -/
  | init (xfer : XferId) (outcome : Transfers.InitOutcome)
  /-- The chosen file is gone. -/
  | vanished (xfer : XferId)
  | denied (xfer : XferId)
  /-- The user cancels the transfer. -/
  | cancelled (xfer : XferId)
  | uiRef (xfer : XferId)
  | uiUnref (xfer : XferId)
  | attachmentSent (requestId : UInt64)
  | attachmentFailed (requestId : UInt64) (text : Option String)
  /-- Another request of the user takes a number. -/
  | otherRequest
  | close (orders : Transfers.CloseOrders)

namespace Transfers

open Program

/-- What libpurple, the user interface and the event source can do between two calls. A file is
chosen or denied once, before the transfer has started, and a transfer is only cancelled while
libpurple has its own reference on it. Whether the user interface holds one does not matter. -/
def enabled (state : Transfers) : TransferLabel → Bool
  | .login => state.connection.isNone
  | .newXfer _ _ => true
  | .init xfer _ | .vanished xfer | .denied xfer =>
      (state.xfers.object? xfer).any fun object => object.status = .notStarted
  | .cancelled xfer => (state.xfers.object? xfer).any fun object => object.status.isOwned
  | .uiRef xfer => (state.xfers.object? xfer).isSome
  | .uiUnref xfer => state.uiHeld.contains xfer
  | .attachmentSent _ | .attachmentFailed _ _ | .otherRequest | .close _ =>
      state.connection.isSome

variable (purple : XferLibrary)

def perform : TransferLabel → TransferProgram Unit
  | .login => write fun state => { state with connection := some {} }
  | .newXfer recipient group => signalNewAttachmentXfer purple recipient group
  | .init xfer outcome => signalOutgoingAttachmentInit purple xfer outcome
  | .vanished xfer => purple.discard xfer
  | .denied xfer => purple.requestDenied (outgoingCallbacks purple) xfer
  | .cancelled xfer => cancelXfer purple .cancelLocal xfer
  | .uiRef xfer => do
      purple.ref xfer
      write fun state => { state with uiHeld := xfer :: state.uiHeld }
  | .uiUnref xfer => do
      write fun state => { state with uiHeld := state.uiHeld.erase xfer }
      purple.unref xfer
  | .attachmentSent requestId => signalOutgoingAttachmentComplete purple requestId
  | .attachmentFailed requestId text => signalOutgoingAttachmentFailed purple requestId text
  | .otherRequest =>
      setConnection fun connection =>
        { connection with nextRequestId := connection.nextRequestId + 1 }
  | .close orders => signalClose purple orders

def step (state : Transfers) (label : TransferLabel) :
    Option (Transfers × List TransferEntry) :=
  if state.enabled label then (perform purple label state).map Prod.snd else none

def machine : Machine Transfers TransferLabel TransferEntry where
  initial := {}
  step := step purple

end Transfers

end SignalPurple
