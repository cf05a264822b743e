import SignalPurple.Core.Attachment.ReportLaw
import SignalPurple.Foundation.Simulation

/-! # A cancellation beside the worker

The client and the worker meet in the life cycle of an attachment. Here each thread stops
before every load and every exchange of it, so that the other may come in between. What a
thread does up to its next access belongs to the one before. The tasks run on the worker's
thread, and no two of them at once.
-/

namespace SignalPurple

namespace AttachmentControls

variable (controls : AttachmentControls) (control : AttachmentControl)

def exchangeCancelled : Bool × AttachmentControls :=
  if (controls.state control).lifecycle = .active then
    (true, controls.set control { controls.state control with lifecycle := .cancelled })
  else (false, controls)

def abort : AttachmentControls :=
  controls.set control { controls.state control with cancellation := true }

theorem cancel_eq :
    (controls.cancel control).2 =
      if (controls.exchangeCancelled control).1 then
        (controls.exchangeCancelled control).2.abort control
      else (controls.exchangeCancelled control).2 := by
  unfold cancel exchangeCancelled
  split <;> simp [abort, set]

end AttachmentControls

/-- Where the worker's thread has stopped. -/
inductive WorkerPause where
  | running
  /-- The attachment of a group was not cancelled, and is to be rejected. -/
  | rejecting (attachment : SendAttachment)
  /-- `interrupted_attachment_event` has found the request not cancelled. Its entry is in the
  map until the event is emitted. -/
  | interrupting (requestId : UInt64) (control : AttachmentControl)
  deriving DecidableEq

structure CancellationRun where
  worker : AttachmentWorker
  pause : WorkerPause := .running
  /-- What the client has looked up and has yet to cancel. -/
  cancelling : List (UInt64 × AttachmentControl) := []
  /-- The client has cancelled this one and is about to abort its upload. -/
  aborting : Option AttachmentControl := none

inductive CancellationLabel where
  /-- A step of either thread with one access at most. -/
  | whole (label : AttachmentLabel)
  | cancel (requestId : UInt64)
  | cancelAll
  | exchange
  | abort
  | dispatch (groupsAuthoritative : Bool)
  | reject
  | interrupt (requestId : UInt64)
  | claim

inductive CancellationEntry where
  | report (report : AttachmentReport)
  /-- The exchange of a cancellation has succeeded. -/
  | cancelled (requestId : UInt64) (control : AttachmentControl)
  /-- An interruption has found the request not cancelled. -/
  | spared (control : AttachmentControl)
  deriving DecidableEq

def CancellationEntry.report? : CancellationEntry → Option AttachmentReport
  | .report shown => some shown
  | .cancelled _ _ | .spared _ => none

def CancellationEntry.isSpared : CancellationEntry → Bool
  | .spared _ => true
  | .report _ | .cancelled _ _ => false

namespace CancellationRun

variable (state : CancellationRun)

abbrev Reached := CancellationRun × List CancellationEntry

def isIdle : Bool := state.cancelling.isEmpty && state.aborting.isNone

/-- Whether a step is one of a single access, and its thread is free to take it. -/
def isEnabled : AttachmentLabel → Bool
  | .queue _ _ _ | .queueOther => state.isIdle
  | .cancel _ | .cancelAll | .dispatch _ | .interrupt _ => false
  | _ => state.pause == .running

def whole (label : AttachmentLabel) : Option Reached :=
  if state.isEnabled label then
    (state.worker.step label).map fun reached =>
      ({ state with worker := reached.1 }, reached.2.map .report)
  else none

/-- The table is read under its lock, which is given back before the exchange. -/
def lookUp (requests : List (UInt64 × AttachmentControl)) : Option Reached :=
  if state.isIdle then some ({ state with cancelling := requests }, []) else none

def exchange : Option Reached :=
  match state.aborting, state.cancelling with
  | none, (requestId, control) :: rest =>
      let exchanged := state.worker.core.controls.exchangeCancelled control
      let exchangedRun : CancellationRun :=
        { state with worker := state.worker.withControls exchanged.2, cancelling := rest }
      if exchanged.1 then
        some ({ exchangedRun with aborting := some control }, [.cancelled requestId control])
      else some (exchangedRun, [])
  | _, _ => none

def abort : Option Reached :=
  state.aborting.map fun control =>
    ({ state with
        worker := state.worker.withControls (state.worker.core.controls.abort control)
        aborting := none }, [])

def clientStep : CancellationLabel → Option Reached
  | .cancel requestId =>
      state.lookUp ((state.worker.core.attachments.state.requests.lookup requestId).toList.map
        fun entry => (requestId, entry.control))
  | .cancelAll =>
      state.lookUp (state.worker.core.attachments.state.requests.entries.map
        fun entry => (entry.1, entry.2.control))
  | .exchange => state.exchange
  | .abort => state.abort
  | _ => none

/-- `Command::SendAttachment` up to the claim. `worker` has taken the command. -/
def dispatchAttachment (worker : AttachmentWorker) (attachment : SendAttachment)
    (groupsAuthoritative : Bool) : CancellationRun :=
  if worker.core.controls.isCancelled attachment.permit.control then
    { state with worker := worker.dropPermit attachment.permit }
  else if attachment.group && !groupsAuthoritative then
    { state with worker, pause := .rejecting attachment }
  else { state with worker := worker.spawn attachment }

def dispatch (groupsAuthoritative : Bool) : Option Reached :=
  match state.worker.deferred with
  | attachment :: rest =>
      some (state.dispatchAttachment { state.worker with deferred := rest } attachment
        groupsAuthoritative, [])
  | [] =>
      match state.worker.core.commands.pending with
      | [] => none
      | .other :: rest => some ({ state with worker := state.worker.received rest }, [])
      | .sendAttachment attachment :: rest =>
          some (state.dispatchAttachment (state.worker.received rest) attachment
            groupsAuthoritative, [])

def reject (attachment : SendAttachment) : Reached :=
  let refused := state.worker.refuse attachment groupsUnavailable
  ({ state with worker := refused.1, pause := .running }, refused.2.map .report)

/-- `interrupted_attachment_event` up to the claim. -/
def interrupt (requestId : UInt64) : Option Reached :=
  match state.worker.aborts.lookup requestId with
  | none => none
  | some control =>
      if state.worker.core.controls.isCancelled control then
        some ({ state with
          worker := { state.worker with aborts := state.worker.aborts.erase requestId } }, [])
      else some ({ state with pause := .interrupting requestId control }, [.spared control])

/-- The rest of it. Whether the claim was successful makes no difference. -/
def claim (requestId : UInt64) (control : AttachmentControl) : Reached :=
  ({ state with
      worker := { state.worker with aborts := state.worker.aborts.erase requestId }.withControls
        (state.worker.core.controls.claimTerminal control).2
      pause := .running },
    [.report (AttachmentWorker.requestErrorReport requestId control
      AttachmentWorker.interruptedMessage)])

def workerStep (label : CancellationLabel) : Option Reached :=
  match state.pause, state.worker.phase, label with
  | .running, .serving, .dispatch groupsAuthoritative => state.dispatch groupsAuthoritative
  | .running, .interrupting _, .interrupt requestId => state.interrupt requestId
  | .rejecting attachment, _, .reject => some (state.reject attachment)
  | .interrupting requestId control, _, .claim => some (state.claim requestId control)
  | _, _, _ => none

def step (label : CancellationLabel) : Option Reached :=
  match label with
  | .whole label => state.whole label
  | .cancel _ | .cancelAll | .exchange | .abort => state.clientStep label
  | .dispatch _ | .reject | .interrupt _ | .claim => state.workerStep label

def machine (maximumBytes : UInt64) (maximumAttachments : Nat) :
    Machine CancellationRun CancellationLabel CancellationEntry where
  initial := { worker := (AttachmentWorker.machine maximumBytes maximumAttachments).initial }
  step := step

end CancellationRun

/-! ## Whole steps -/

namespace CancellationRun

variable {worker next : AttachmentWorker} {entries : List AttachmentReport}
  {maximumBytes : UInt64} {maximumAttachments : Nat}

/-- A run of the finer machine between two states in which no thread has stopped. -/
def Expands (maximumBytes : UInt64) (maximumAttachments : Nat) (worker next : AttachmentWorker)
    (entries : List AttachmentReport) : Prop :=
  ∃ followed history,
    (machine maximumBytes maximumAttachments).runFrom { worker } followed =
      some ({ worker := next }, history) ∧
    history.filterMap CancellationEntry.report? = entries

theorem exchange_of_active {requestId : UInt64} {control : AttachmentControl}
    (rest : List (UInt64 × AttachmentControl))
    (exchanged : (worker.core.controls.exchangeCancelled control).1 = true) :
    ({ worker, cancelling := (requestId, control) :: rest } : CancellationRun).exchange =
      some ({ worker := worker.withControls (worker.core.controls.exchangeCancelled control).2
              cancelling := rest
              aborting := some control }, [.cancelled requestId control]) := by
  simp [exchange, exchanged]

theorem exchange_of_ended {requestId : UInt64} {control : AttachmentControl}
    (rest : List (UInt64 × AttachmentControl))
    (exchanged : (worker.core.controls.exchangeCancelled control).1 = false) :
    ({ worker, cancelling := (requestId, control) :: rest } : CancellationRun).exchange =
      some ({ worker := worker.withControls (worker.core.controls.exchangeCancelled control).2
              cancelling := rest }, []) := by
  simp [exchange, exchanged]

theorem runFrom_cancelling (requests : List (UInt64 × AttachmentControl))
    (worker : AttachmentWorker) :
    ∃ followed history, (machine maximumBytes maximumAttachments).runFrom
        { worker, cancelling := requests } followed =
      some ({ worker := worker.withControls ((requests.map (·.2)).foldl
        (fun controls control => (controls.cancel control).2) worker.core.controls) }, history) ∧
      history.filterMap CancellationEntry.report? = [] := by
  induction requests generalizing worker with
  | nil => exact ⟨[], [], rfl, rfl⟩
  | cons request rest induction =>
      rcases request with ⟨requestId, control⟩
      obtain ⟨followed, history, runs, silent⟩ :=
        induction (worker.withControls (worker.core.controls.cancel control).2)
      rw [List.map_cons, List.foldl_cons]
      have same := worker.core.controls.cancel_eq control
      cases exchanged : (worker.core.controls.exchangeCancelled control).1 with
      | true =>
          rw [exchanged, if_pos rfl] at same
          rw [same] at runs ⊢
          refine ⟨.exchange :: .abort :: followed, .cancelled requestId control :: history, ?_,
            silent⟩
          refine (machine _ _).runFrom_cons_eq_some.mpr
            ⟨_, _, history, exchange_of_active rest exchanged, ?_, rfl⟩
          exact (machine _ _).runFrom_cons_eq_some.mpr ⟨_, [], history, rfl, runs, rfl⟩
      | false =>
          rw [exchanged, if_neg Bool.false_ne_true] at same
          rw [same] at runs ⊢
          exact ⟨.exchange :: followed, history, (machine _ _).runFrom_cons_eq_some.mpr
            ⟨_, [], history, exchange_of_ended rest exchanged, runs, rfl⟩, silent⟩

theorem expands_of_step (label : CancellationLabel) {shown : List CancellationEntry}
    (stepped : ({ worker } : CancellationRun).step label = some ({ worker := next }, shown)) :
    Expands maximumBytes maximumAttachments worker next
      (shown.filterMap CancellationEntry.report?) :=
  ⟨[label], shown, (machine _ _).runFrom_singleton stepped, rfl⟩

theorem expands_of_steps (first second : CancellationLabel) {middle : CancellationRun}
    {earlier later : List CancellationEntry}
    (begins : ({ worker } : CancellationRun).step first = some (middle, earlier))
    (ends : middle.step second = some ({ worker := next }, later)) :
    Expands maximumBytes maximumAttachments worker next
      ((earlier ++ later).filterMap CancellationEntry.report?) := by
  refine ⟨[first, second], earlier ++ later, ?_, rfl⟩
  exact (machine _ _).runFrom_cons_eq_some.mpr
    ⟨_, _, _, begins, (machine _ _).runFrom_singleton ends, rfl⟩

theorem filterMap_report (reports : List AttachmentReport) :
    (reports.map CancellationEntry.report).filterMap CancellationEntry.report? = reports := by
  simp [List.filterMap_map, CancellationEntry.report?, Function.comp_def]

theorem expands_whole {label : AttachmentLabel}
    (enabled : ({ worker } : CancellationRun).isEnabled label = true)
    (stepped : worker.step label = some (next, entries)) :
    Expands maximumBytes maximumAttachments worker next entries := by
  rw [← filterMap_report entries]
  apply expands_of_step (.whole label)
  simp [step, whole, enabled, stepped]

theorem expands_cancel (label : CancellationLabel) {requests : List (UInt64 × AttachmentControl)}
    (looksUp : ({ worker } : CancellationRun).step label =
      some ({ worker, cancelling := requests }, [])) :
    Expands maximumBytes maximumAttachments worker
      (worker.withControls ((requests.map (·.2)).foldl
        (fun controls control => (controls.cancel control).2) worker.core.controls)) [] := by
  rcases runFrom_cancelling requests worker with ⟨followed, history, runs, silent⟩
  exact ⟨label :: followed, history,
    (machine _ _).runFrom_cons_eq_some.mpr ⟨_, [], history, looksUp, runs, rfl⟩, silent⟩

theorem expands_clientStep {label : AttachmentLabel}
    (stepped : worker.clientStep label = some (next, entries)) :
    Expands maximumBytes maximumAttachments worker next entries := by
  have whole : worker.step label = some (next, entries) := by
    simp [AttachmentWorker.step, stepped]
  cases label with
  | queue | queueOther => exact expands_whole rfl whole
  | cancel requestId =>
      cases stepped
      have cancels : Expands maximumBytes maximumAttachments worker _ [] :=
        expands_cancel (.cancel requestId) rfl
      unfold AttachmentAdmission.cancel
      cases found : worker.core.attachments.state.requests.lookup requestId with
      | none => simpa [found] using cancels
      | some entry => simpa [found] using cancels
  | cancelAll =>
      cases stepped
      have cancels : Expands maximumBytes maximumAttachments worker _ [] :=
        expands_cancel .cancelAll rfl
      rw [List.map_map] at cancels
      exact cancels
  | _ => cases stepped

theorem expands_dispatchAttachment {taken : AttachmentWorker} {attachment : SendAttachment}
    {groupsAuthoritative : Bool}
    (dispatches : ({ worker } : CancellationRun).step (.dispatch groupsAuthoritative) =
      some (({ worker } : CancellationRun).dispatchAttachment taken attachment
        groupsAuthoritative, [])) :
    Expands maximumBytes maximumAttachments worker
      (taken.dispatchAttachment attachment groupsAuthoritative).1
      (taken.dispatchAttachment attachment groupsAuthoritative).2 := by
  unfold AttachmentWorker.dispatchAttachment
  unfold dispatchAttachment at dispatches
  split
  next cancelled =>
    rw [if_pos cancelled] at dispatches
    exact expands_of_step _ dispatches
  next notCancelled =>
    rw [if_neg notCancelled] at dispatches
    split
    next unavailable =>
      rw [if_pos unavailable] at dispatches
      have refused : Expands maximumBytes maximumAttachments worker _ _ :=
        expands_of_steps _ .reject dispatches rfl
      rw [List.nil_append, filterMap_report] at refused
      exact refused
    next available =>
      rw [if_neg available] at dispatches
      exact expands_of_step _ dispatches

theorem expands_dispatch {groupsAuthoritative : Bool} (serving : worker.phase = .serving)
    (stepped : worker.dispatch groupsAuthoritative = some (next, entries)) :
    Expands maximumBytes maximumAttachments worker next entries := by
  have dispatches : ({ worker } : CancellationRun).step (.dispatch groupsAuthoritative) =
      ({ worker } : CancellationRun).dispatch groupsAuthoritative := by
    simp [step, workerStep, serving]
  unfold AttachmentWorker.dispatch at stepped
  unfold dispatch at dispatches
  split at stepped
  next attachment rest deferred =>
    rcases Machine.reached_of_some stepped with ⟨rfl, rfl⟩
    simp only [deferred] at dispatches
    exact expands_dispatchAttachment dispatches
  next noneDeferred =>
    simp only [noneDeferred] at dispatches
    split at stepped
    next => cases stepped
    next rest pending =>
      cases stepped
      simp only [pending] at dispatches
      exact expands_of_step _ dispatches
    next attachment rest pending =>
      rcases Machine.reached_of_some stepped with ⟨rfl, rfl⟩
      simp only [pending] at dispatches
      exact expands_dispatchAttachment dispatches

theorem expands_interrupt {final : Bool} {requestId : UInt64} {control : AttachmentControl}
    (interrupting : worker.phase = .interrupting final)
    (found : worker.aborts.lookup requestId = some control) :
    Expands maximumBytes maximumAttachments worker
      (worker.interruptAttachment requestId control).1
      (worker.interruptAttachment requestId control).2 := by
  have interrupts : ({ worker } : CancellationRun).step (.interrupt requestId) =
      ({ worker } : CancellationRun).interrupt requestId := by
    simp [step, workerStep, interrupting]
  simp only [interrupt, found] at interrupts
  unfold AttachmentWorker.interruptAttachment
  split
  next cancelled =>
    rw [if_pos cancelled] at interrupts
    exact expands_of_step _ interrupts
  next notCancelled =>
    rw [if_neg notCancelled] at interrupts
    exact expands_of_steps _ .claim interrupts rfl

theorem expands_actorStep {label : AttachmentLabel}
    (notClient : worker.clientStep label = none) (notTask : worker.taskStep label = none)
    (stepped : worker.actorStep label = some (next, entries)) :
    Expands maximumBytes maximumAttachments worker next entries := by
  have whole : worker.step label = some (next, entries) := by
    simp [AttachmentWorker.step, notClient, notTask, stepped]
  cases AttachmentWorker.actorTransition_of_actorStep stepped with
  | dispatch serving dispatched => exact expands_dispatch serving dispatched
  | interrupt interrupting found => exact expands_interrupt interrupting found
  | _ => exact expands_whole rfl whole

/-- The finer machine can do all that the worker does in whole steps. -/
def expansion (maximumBytes : UInt64) (maximumAttachments : Nat) :
    (AttachmentWorker.machine maximumBytes maximumAttachments).Expansion
      (machine maximumBytes maximumAttachments) where
  place worker := { worker }
  shown := CancellationEntry.report?
  initial := rfl
  step worker label next entries stepped := by
    have whole : worker.step label = some (next, entries) := stepped
    simp only [AttachmentWorker.machine, AttachmentWorker.step] at stepped
    split at stepped
    next reached client =>
      rw [stepped] at client
      exact expands_clientStep client
    next notClient =>
      split at stepped
      next reached task =>
        have enabled : ({ worker } : CancellationRun).isEnabled label = true := by
          cases label <;> first | rfl | cases task
        exact expands_whole enabled whole
      next notTask => exact expands_actorStep notClient notTask stepped

theorem run_of_whole {labels : List AttachmentLabel} {history : List AttachmentReport}
    (runs : (AttachmentWorker.machine maximumBytes maximumAttachments).run labels =
      some (worker, history)) :
    ∃ followed shown, (machine maximumBytes maximumAttachments).run followed =
        some ({ worker }, shown) ∧
      shown.filterMap CancellationEntry.report? = history :=
  (expansion maximumBytes maximumAttachments).runFrom runs

end CancellationRun

end SignalPurple
