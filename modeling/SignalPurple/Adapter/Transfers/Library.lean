import SignalPurple.Foundation.Program
import SignalPurple.Foundation.RefCount

/-! # Transfers of libpurple

A file that the user sends is a transfer (`PurpleXfer`) of libpurple, which counts the
references on it, and a context (`SignalOutgoingAttachment`), which the transfer points to
and which points to the connection. A queued transfer is found by its request in the table
`outgoing_attachments`.

libpurple is not part of this program, so it is a parameter: an `XferLibrary` has its
functions, and the laws that the plugin relies on. A new transfer comes with one reference.
libpurple drops it when the transfer is ended, cancelled or denied, after it has called the
plugin back, or when the chosen file cannot be sent, without a word to the plugin. Nothing is
said of a call on a transfer that was freed, nor of the last reference on one that runs.
-/

namespace SignalPurple

abbrev XferId := Nat

abbrev ContextId := Nat

inductive XferStatus where
  | notStarted
  /-- libpurple let go of a transfer that was not started. -/
  | dropped
  | started
  | done
  | cancelLocal
  | cancelRemote
  deriving DecidableEq

namespace XferStatus

/-- `purple_xfer_is_canceled` or `purple_xfer_is_completed`. -/
def isEnded : XferStatus → Bool
  | .done | .cancelLocal | .cancelRemote => true
  | .notStarted | .dropped | .started => false

/-- libpurple still has the reference that the transfer came with. -/
def isOwned : XferStatus → Bool
  | .notStarted | .started => true
  | .dropped | .done | .cancelLocal | .cancelRemote => false

theorem isEnded_of_owned {status : XferStatus} (owned : status.isOwned = true) :
    status.isEnded = false := by
  cases status <;> first | rfl | cases owned

end XferStatus

structure Xfer where
  data : Option ContextId := none
  status : XferStatus := .notStarted
  size : Nat := 0
  bytesSent : Nat := 0

def Xfer.own (xfer : Xfer) : Nat := if xfer.status.isOwned then 1 else 0

structure OutgoingAttachment where
  /-- The pointer to the connection is set. -/
  connected : Bool := true
  recipient : String
  group : Bool
  requestId : UInt64 := 0

/-- The part of a `SignalConnection` that transfers use. -/
structure TransferConnection where
  closing : Bool := false
  outgoingAttachments : List (UInt64 × XferId) := []
  outgoingAttachmentContexts : List ContextId := []
  nextRequestId : UInt64 := 1

structure Transfers where
  xfers : RefHeap XferId Xfer := {}
  nextXfer : XferId := 0
  contexts : ContextId → Option OutgoingAttachment := fun _ => none
  nextContext : ContextId := 0
  connection : Option TransferConnection := none
  /-- References that dialogs of the user interface hold. -/
  uiHeld : List XferId := []

inductive TransferEntry where
  /-- The core took the request. -/
  | queued (requestId : UInt64) (xfer : XferId)
  /-- The core reported that the request was carried out. -/
  | sent (requestId : UInt64)
  | coreCancel (requestId : UInt64)
  /-- `purple_xfer_error`. -/
  | error (xfer : XferId) (message : String)
  /-- The transfer got one of the statuses it ends with. -/
  | ended (xfer : XferId) (status : XferStatus)
  deriving DecidableEq

abbrev TransferProgram := Program Transfers TransferEntry

namespace Transfers

open Program

def derefXfer (xfer : XferId) : TransferProgram Xfer := do
  let state ← read
  require (state.xfers.object? xfer)

def setXfer (xfer : XferId) (change : Xfer → Xfer) : TransferProgram Unit := do
  let object ← derefXfer xfer
  write fun state => { state with xfers := state.xfers.set xfer (change object) }

section

variable {state : Transfers} {xfer : XferId} {object : Xfer}
  (found : state.xfers.object? xfer = some object)

include found

theorem derefXfer_eq : derefXfer xfer state = some (object, state, []) := by
  simp [derefXfer, bind, Program.read, require, found, pure]

theorem derefXfer_bind {Result : Type} (rest : Xfer → TransferProgram Result) :
    (derefXfer xfer >>= rest) state = rest object state := by
  simp only [bind, derefXfer_eq found]
  cases rest object state with
  | none => rfl
  | some result => rfl

theorem setXfer_eq (change : Xfer → Xfer) : setXfer xfer change state =
    some ((), { state with xfers := state.xfers.set xfer (change object) }, []) :=
  derefXfer_bind found _

end

def changeStatus (xfer : XferId) (status : XferStatus) : TransferProgram Unit := do
  setXfer xfer fun object => { object with status }
  if status.isEnded then emit (.ended xfer status)

end Transfers

/-- The functions that the plugin sets for a transfer. -/
structure XferCallbacks where
  endFnc : XferId → TransferProgram Unit
  requestDeniedFnc : XferId → TransferProgram Unit
  cancelSendFnc : XferId → TransferProgram Unit

open Transfers in
structure XferLibrary where
  new : TransferProgram (Option XferId)
  ref : XferId → TransferProgram Unit
  unref : XferId → TransferProgram Unit
  error : XferId → String → TransferProgram Unit
  setSize : XferId → Nat → TransferProgram Unit
  setBytesSent : XferId → Nat → TransferProgram Unit
  setCompleted : XferId → TransferProgram Unit
  /-- `purple_xfer_cancel_local` and `purple_xfer_cancel_remote`. -/
  cancel : XferCallbacks → XferStatus → XferId → TransferProgram Unit
  /-- `purple_xfer_end`. -/
  finish : XferCallbacks → XferId → TransferProgram Unit
  requestDenied : XferCallbacks → XferId → TransferProgram Unit
  /-- `purple_xfer_request_accepted` with a file that cannot be sent. -/
  discard : XferId → TransferProgram Unit
  /-- Handlers see the new status before the file is opened, if it can be opened. -/
  start (callbacks : XferCallbacks) (handlers : TransferProgram Unit) (opens : Bool)
    (xfer : XferId) : TransferProgram Unit
  getAll : Transfers → List XferId
  new_cases : ∀ state, new state = some (none, state, []) ∨
    new state = some (some state.nextXfer,
      { state with
        xfers := state.xfers.alloc state.nextXfer {}
        nextXfer := state.nextXfer + 1 }, [])
  ref_eq : ∀ {state xfer object}, state.xfers.object? xfer = some object →
    ref xfer state = some ((), { state with xfers := state.xfers.ref xfer }, [])
  /-- A transfer that is destroyed while it runs would be cancelled with no reference left. -/
  unref_eq : ∀ {state xfer cell}, state.xfers.cells xfer = some cell →
    (cell.object.status = .started → 1 < cell.refs) →
    unref xfer state = some ((), { state with xfers := state.xfers.unref xfer }, [])
  error_eq : ∀ {state xfer object} message, state.xfers.object? xfer = some object →
    error xfer message state = some ((), state, [.error xfer message])
  setSize_eq : ∀ {state xfer object} size, state.xfers.object? xfer = some object →
    setSize xfer size state =
      some ((), { state with xfers := state.xfers.set xfer { object with size } }, [])
  setBytesSent_eq : ∀ {state xfer object} bytesSent, state.xfers.object? xfer = some object →
    setBytesSent xfer bytesSent state =
      some ((), { state with xfers := state.xfers.set xfer { object with bytesSent } }, [])
  setCompleted_eq : ∀ {state xfer object}, state.xfers.object? xfer = some object →
    setCompleted xfer state = changeStatus xfer .done state
  cancel_eq : ∀ callbacks {status state xfer object}, state.xfers.object? xfer = some object →
    object.status.isOwned = true → (status = .cancelLocal ∨ status = .cancelRemote) →
    cancel callbacks status xfer state = (do
      changeStatus xfer status
      callbacks.cancelSendFnc xfer
      unref xfer) state
  finish_eq : ∀ callbacks {state xfer object}, state.xfers.object? xfer = some object →
    object.status = .done →
    finish callbacks xfer state = (do
      callbacks.endFnc xfer
      unref xfer) state
  requestDenied_eq : ∀ callbacks {state xfer object}, state.xfers.object? xfer = some object →
    object.status = .notStarted →
    requestDenied callbacks xfer state = (do
      changeStatus xfer .dropped
      callbacks.requestDeniedFnc xfer
      unref xfer) state
  discard_eq : ∀ {state xfer object}, state.xfers.object? xfer = some object →
    object.status = .notStarted →
    discard xfer state = (do
      changeStatus xfer .dropped
      unref xfer) state
  start_eq : ∀ callbacks handlers opens {state xfer object},
    state.xfers.object? xfer = some object → object.status = .notStarted →
    start callbacks handlers opens xfer state = (do
      changeStatus xfer .started
      handlers
      if opens then pure () else cancel callbacks .cancelLocal xfer) state
  exists_of_getAll : ∀ {state xfer}, xfer ∈ getAll state →
    ∃ object, state.xfers.object? xfer = some object
  getAll_of_exists : ∀ {state xfer object}, xfer < state.nextXfer →
    state.xfers.object? xfer = some object → xfer ∈ getAll state

/-! ## The strictest library

It faults on a transfer that was freed, or that is in another state than the laws ask for.
-/

namespace XferLibrary

open Program Transfers

def whenStatus (allowed : XferStatus → Bool) (xfer : XferId) (body : TransferProgram Unit) :
    TransferProgram Unit := do
  let object ← derefXfer xfer
  if allowed object.status then body else fault

theorem whenStatus_eq {state : Transfers} {xfer : XferId} {object : Xfer}
    {allowed : XferStatus → Bool} {body : TransferProgram Unit}
    (found : state.xfers.object? xfer = some object) (isAllowed : allowed object.status = true) :
    whenStatus allowed xfer body state = body state := by
  rw [whenStatus, derefXfer_bind found, if_pos isAllowed]

def strictUnref (xfer : XferId) : TransferProgram Unit := do
  let state ← read
  let cell ← require (state.xfers.cells xfer)
  if cell.object.status = .started ∧ cell.refs ≤ 1 then fault
  else write fun state => { state with xfers := state.xfers.unref xfer }

def strictCancel (callbacks : XferCallbacks) (status : XferStatus) (xfer : XferId) :
    TransferProgram Unit :=
  whenStatus XferStatus.isOwned xfer do
    changeStatus xfer status
    callbacks.cancelSendFnc xfer
    strictUnref xfer

def strict : XferLibrary where
  new := do
    let state ← read
    write fun state =>
      { state with
        xfers := state.xfers.alloc state.nextXfer {}
        nextXfer := state.nextXfer + 1 }
    pure (some state.nextXfer)
  ref xfer := do
    let _ ← derefXfer xfer
    write fun state => { state with xfers := state.xfers.ref xfer }
  unref := strictUnref
  error xfer message := do
    let _ ← derefXfer xfer
    emit (.error xfer message)
  setSize xfer size := setXfer xfer fun object => { object with size }
  setBytesSent xfer bytesSent := setXfer xfer fun object => { object with bytesSent }
  setCompleted xfer := changeStatus xfer .done
  cancel := strictCancel
  finish callbacks xfer :=
    whenStatus (· = .done) xfer do
      callbacks.endFnc xfer
      strictUnref xfer
  requestDenied callbacks xfer :=
    whenStatus (· = .notStarted) xfer do
      changeStatus xfer .dropped
      callbacks.requestDeniedFnc xfer
      strictUnref xfer
  discard xfer :=
    whenStatus (· = .notStarted) xfer do
      changeStatus xfer .dropped
      strictUnref xfer
  start callbacks handlers opens xfer :=
    whenStatus (· = .notStarted) xfer do
      changeStatus xfer .started
      handlers
      if opens then pure () else strictCancel callbacks .cancelLocal xfer
  -- The latest comes first.
  getAll state :=
    (List.range state.nextXfer).reverse.filter fun xfer => (state.xfers.object? xfer).isSome
  new_cases _ := Or.inr rfl
  ref_eq found := derefXfer_bind found _
  unref_eq := by
    intro state xfer cell found survives
    have lasts : ¬(cell.object.status = .started ∧ cell.refs ≤ 1) := by grind
    simp [strictUnref, bind, Program.read, require, found, pure, lasts, write]
  error_eq _ found := derefXfer_bind found _
  setSize_eq _ found := setXfer_eq found _
  setBytesSent_eq _ found := setXfer_eq found _
  setCompleted_eq _ := rfl
  cancel_eq _ _ _ _ _ found owned _ := whenStatus_eq found owned
  finish_eq _ _ _ _ found done := whenStatus_eq found (decide_eq_true done)
  requestDenied_eq _ _ _ _ found waiting := whenStatus_eq found (decide_eq_true waiting)
  discard_eq found waiting := whenStatus_eq found (decide_eq_true waiting)
  start_eq _ _ _ _ _ _ found waiting := whenStatus_eq found (decide_eq_true waiting)
  exists_of_getAll member := Option.isSome_iff_exists.mp (List.mem_filter.mp member).2
  getAll_of_exists known found := by simp [known, found]

end XferLibrary

end SignalPurple
