import SignalPurple.Core.Attachment.Ffi
import SignalPurple.Core.Event

/-! # The worker's attachments

The worker takes attachments from the command channel, defers them while it recovers, runs
each in a task of its own and reports how the task ended. A connection that is given up or
stopped aborts the tasks, collects those that had already returned, and reports what is
left as interrupted; if that takes too long the tasks are abandoned.

The client's thread queues and cancels at any time. Tasks advance whenever the worker
waits. Whether a session is ready, when it recovers and when time runs out is up to the
labels.
-/

namespace SignalPurple

namespace Command

def attachment? : Command → Option SendAttachment
  | .sendAttachment attachment => some attachment
  | .other => none

end Command

structure AttachmentTask where
  requestId : UInt64
  permit : AttachmentPermit
  deriving DecidableEq

/-- `Finished(Ok(_))`, `Finished(Err(_))` or `Cancelled`. -/
inductive AttachmentTaskResult where
  | sent
  | failed (error : String)
  | cancelled
  deriving DecidableEq

structure AttachmentCompletion where
  requestId : UInt64
  result : AttachmentTaskResult
  permit : AttachmentPermit
  deriving DecidableEq

/-- How `upload_and_send_attachment` comes back. -/
inductive UploadOutcome where
  | sent
  | failed (error : String)
  | panicked
  deriving DecidableEq

/-- Where the worker is. A cleanup is `final` when the worker stops after it. A completion
that could not be joined is `none`. -/
inductive WorkerPhase where
  | serving
  /-- `fail_deferred_commands`. -/
  | failing (message : String)
  /-- The cleanup waits for other tasks. -/
  | waiting (final : Bool)
  /-- `abort_and_drain_tasks`. -/
  | draining (final : Bool) (completions : List (Option AttachmentCompletion))
  /-- The completions are reported; after the last, messages are marked as sent. -/
  | finishing (final : Bool) (completions : List (Option AttachmentCompletion))
  /-- `interrupt_remaining_attachments`. -/
  | interrupting (final : Bool)
  | stopped

def WorkerPhase.collected : WorkerPhase → List AttachmentCompletion
  | .draining _ completions | .finishing _ completions => completions.filterMap id
  | _ => []

structure AttachmentWorker where
  core : SignalCore
  deferred : List SendAttachment := []
  /-- The tasks of the join set that run, and those that returned and were not joined. -/
  running : List AttachmentTask := []
  returned : List AttachmentCompletion := []
  /-- Permits in aborted futures that the runtime has not dropped yet. -/
  aborted : List AttachmentPermit := []
  aborts : AList fun _ : UInt64 => AttachmentControl := ∅
  phase : WorkerPhase := .serving

inductive AttachmentLabel where
  | queue (requestId : UInt64) (group : Bool) (checked : CheckedAttachment)
  | queueOther
  | cancel (requestId : UInt64)
  | cancelAll
  /-- The upload of a task comes back, and the task with it. -/
  | upload (task : AttachmentTask) (outcome : UploadOutcome)
  /-- The task of a cancelled upload comes back. -/
  | uploadAborted (task : AttachmentTask)
  /-- The runtime drops an aborted future. -/
  | reap (permit : AttachmentPermit)
  /-- A command arrives while the session is not ready. -/
  | defer
  | dispatch (groupsAuthoritative : Bool)
  /-- A task is joined. The worker may find itself told to stop before it looks at the
  result. -/
  | join (completed : Option AttachmentCompletion) (stopped : Bool)
  | failDeferred (message : String)
  | failNext
  | cleanup (final : Bool)
  | abortTasks
  | drained
  | finishNext
  | interruptRemaining
  | interrupt (requestId : UInt64)
  | timeout
  | resume

/-- What an observer sees. A report names the control of the request it is about. -/
inductive AttachmentReport where
  | admitted (attachment : SendAttachment)
  | uploaded (control : AttachmentControl) (outcome : UploadOutcome)
  | reported (control : AttachmentControl) (event : Event)
  deriving DecidableEq

def groupsUnavailable : String :=
  "Signal groups are temporarily unavailable until authoritative synchronization succeeds"

namespace AttachmentWorker

variable (worker : AttachmentWorker)

abbrev Reached := AttachmentWorker × List AttachmentReport

def channel : List SendAttachment := worker.core.commands.pending.filterMap Command.attachment?

def withControls (controls : AttachmentControls) : AttachmentWorker :=
  { worker with core := { worker.core with controls } }

def dropPermit (permit : AttachmentPermit) : AttachmentWorker :=
  { worker with core := { worker.core with
      attachments := worker.core.attachments.release permit.requestId } }

def dropPermits (permits : List AttachmentPermit) : AttachmentWorker :=
  permits.foldl dropPermit worker

def received (rest : List Command) : AttachmentWorker :=
  { worker with core := { worker.core with
      commands := { worker.core.commands with pending := rest } } }

def requestErrorReport (requestId : UInt64) (control : AttachmentControl) (message : String) :
    AttachmentReport :=
  .reported control (Event.requestError requestId message)

/-- A command ends with an error, unless someone has claimed its end before. -/
def refuse (attachment : SendAttachment) (message : String) : Reached :=
  let claim := worker.core.controls.claimTerminal attachment.permit.control
  ((worker.withControls claim.2).dropPermit attachment.permit,
    if claim.1 then
      [requestErrorReport attachment.requestId attachment.permit.control message]
    else [])

def spawn (attachment : SendAttachment) : AttachmentWorker :=
  { worker with
    running := worker.running ++
      [{ requestId := attachment.requestId, permit := attachment.permit }]
    aborts := worker.aborts.insert attachment.requestId attachment.permit.control }

/-- `Command::SendAttachment` in the dispatch loop. -/
def dispatchAttachment (attachment : SendAttachment) (groupsAuthoritative : Bool) : Reached :=
  if worker.core.controls.isCancelled attachment.permit.control then
    (worker.dropPermit attachment.permit, [])
  else if attachment.group && !groupsAuthoritative then
    worker.refuse attachment groupsUnavailable
  else (worker.spawn attachment, [])

/-- The deferred commands come first. -/
def dispatch (groupsAuthoritative : Bool) : Option Reached :=
  match worker.deferred with
  | attachment :: rest =>
      some ({ worker with deferred := rest }.dispatchAttachment attachment groupsAuthoritative)
  | [] =>
      match worker.core.commands.pending with
      | [] => none
      | .other :: rest => some (worker.received rest, [])
      | .sendAttachment attachment :: rest =>
          some ((worker.received rest).dispatchAttachment attachment groupsAuthoritative)

/-- `handle_recovery_command`. -/
def defer : Option Reached :=
  match worker.core.commands.pending with
  | [] => none
  | .other :: rest => some (worker.received rest, [])
  | .sendAttachment attachment :: rest =>
      some ({ worker.received rest with deferred := worker.deferred ++ [attachment] }, [])

/-- The text of an upload that panicked is the one `attachment_task_result` gives it. -/
def uploadResult : UploadOutcome → AttachmentTaskResult
  | .sent => .sent
  | .failed error => .failed error
  | .panicked => .failed "Signal attachment task failed unexpectedly"

def taskReturned (task : AttachmentTask) (result : AttachmentTaskResult) : AttachmentWorker :=
  { worker with
    running := worker.running.erase task
    returned := worker.returned ++
      [{ requestId := task.requestId, result, permit := task.permit }] }

/-- `attachment_task_result` when the upload was not aborted. -/
def attachmentTaskResult (task : AttachmentTask) (outcome : UploadOutcome) : Reached :=
  let claim := worker.core.controls.claimTerminal task.permit.control
  ((worker.withControls claim.2).taskReturned task
      (if claim.1 || outcome == .sent then uploadResult outcome else .cancelled),
    [.uploaded task.permit.control outcome])

def completionReports (completion : AttachmentCompletion) : List AttachmentReport :=
  match completion.result with
  | .sent => [.reported completion.permit.control
      { kind := .attachmentSent, requestId := completion.requestId }]
  | .failed error =>
      [requestErrorReport completion.requestId completion.permit.control error]
  | .cancelled => []

def finishAttachmentCompletion : Option AttachmentCompletion → Reached
  | none => (worker, [])
  | some completion =>
      ({ worker with aborts := worker.aborts.erase completion.requestId }.dropPermit
        completion.permit, completionReports completion)

def interruptedMessage : String :=
  "Signal connection was interrupted before the attachment completed"

/-- `interrupted_attachment_event`, for an entry that is taken from the map. -/
def interruptAttachment (requestId : UInt64) (control : AttachmentControl) : Reached :=
  if worker.core.controls.isCancelled control then
    ({ worker with aborts := worker.aborts.erase requestId }, [])
  else
    ({ worker with aborts := worker.aborts.erase requestId }.withControls
        (worker.core.controls.claimTerminal control).2,
      [requestErrorReport requestId control interruptedMessage])

def abortTasks : AttachmentWorker :=
  { worker with
    running := []
    aborted := worker.aborted ++ worker.running.map (·.permit) }

/-- `abandon_timed_out_attachments`, up to the interruption of what is left. The join set is
dropped with all that returned in it. -/
def abandon (final : Bool) : AttachmentWorker :=
  { (worker.abortTasks.dropPermits
      (worker.returned.map (·.permit) ++ worker.phase.collected.map (·.permit))) with
    returned := []
    phase := .interrupting final }

/-- A joined task is reported at once, unless the worker stops, which drops the result. In a
cleanup the results are collected first. -/
def join (completed : Option AttachmentCompletion) (stopped : Bool) : Option Reached :=
  match worker.phase with
  | .serving =>
      if stopped then
        some ({ worker.dropPermits (completed.map (·.permit)).toList with
          phase := .waiting true }, [])
      else some (worker.finishAttachmentCompletion completed)
  | .draining final completions =>
      some ({ worker with phase := .draining final (completions ++ [completed]) }, [])
  | _ => none

def joinTask (completed : Option AttachmentCompletion) (stopped : Bool) : Option Reached :=
  match completed with
  | none => worker.join none stopped
  | some completion =>
      if completion ∈ worker.returned then
        { worker with returned := worker.returned.erase completion }.join completed stopped
      else none

def clientStep : AttachmentLabel → Option Reached
  | .queue requestId group checked =>
      let core := (worker.core.queueAttachment requestId group checked).2
      let commands := core.commands.pending.drop worker.core.commands.pending.length
      some ({ worker with core }, (commands.filterMap Command.attachment?).map .admitted)
  | .queueOther =>
      match worker.core.commands.tryReserve with
      | .ok () => some ({ worker with core := { worker.core with
          commands := worker.core.commands.send .other } }, [])
      | .error _ => some (worker, [])
  | .cancel requestId =>
      some (worker.withControls
        (worker.core.attachments.cancel worker.core.controls requestId).2, [])
  | .cancelAll =>
      some (worker.withControls (worker.core.attachments.cancelAll worker.core.controls), [])
  | _ => none

def taskStep : AttachmentLabel → Option Reached
  | .upload task outcome =>
      if task ∈ worker.running then some (worker.attachmentTaskResult task outcome) else none
  | .uploadAborted task =>
      if task ∈ worker.running ∧
          (worker.core.controls.state task.permit.control).cancellation then
        some (worker.taskReturned task .cancelled, [])
      else none
  | .reap permit =>
      if permit ∈ worker.aborted then
        some ({ worker with aborted := worker.aborted.erase permit }.dropPermit permit, [])
      else none
  | _ => none

def actorStep (label : AttachmentLabel) : Option Reached :=
  match worker.phase, label with
  | _, .join completed stopped => worker.joinTask completed stopped
  | .serving, .defer => worker.defer
  | .serving, .dispatch groupsAuthoritative => worker.dispatch groupsAuthoritative
  | .serving, .failDeferred message => some ({ worker with phase := .failing message }, [])
  | .serving, .cleanup final => some ({ worker with phase := .waiting final }, [])
  | .failing message, .failNext =>
      match worker.deferred with
      | [] => some ({ worker with phase := .waiting true }, [])
      | attachment :: rest => some ({ worker with deferred := rest }.refuse attachment message)
  | .waiting final, .abortTasks =>
      some ({ worker.abortTasks with phase := .draining final [] }, [])
  | .waiting final, .timeout => some (worker.abandon final, [])
  | .draining final completions, .drained =>
      if worker.returned = [] then
        some ({ worker with phase := .finishing final completions }, [])
      else none
  | .draining final _, .timeout => some (worker.abandon final, [])
  | .finishing final (completed :: rest), .finishNext =>
      some ({ worker with phase := .finishing final rest }.finishAttachmentCompletion completed)
  | .finishing final [], .interruptRemaining =>
      some ({ worker with phase := .interrupting final }, [])
  | .finishing final [], .timeout => some (worker.abandon final, [])
  | .interrupting _, .interrupt requestId =>
      match worker.aborts.lookup requestId with
      | none => none
      | some control => some (worker.interruptAttachment requestId control)
  | .interrupting final, .resume =>
      if worker.aborts.keys = [] then
        some ({ worker with phase := if final then .stopped else .serving }, [])
      else none
  | _, _ => none

/-- The actor's steps, one constructor for each branch that the source takes. -/
inductive ActorTransition :
    AttachmentLabel → AttachmentWorker → List AttachmentReport → Prop
  | join {completed stopped next entries}
      (joined : worker.joinTask completed stopped = some (next, entries)) :
      ActorTransition (.join completed stopped) next entries
  | defer {next entries} (serving : worker.phase = .serving)
      (deferred : worker.defer = some (next, entries)) : ActorTransition .defer next entries
  | dispatch {groupsAuthoritative next entries} (serving : worker.phase = .serving)
      (dispatched : worker.dispatch groupsAuthoritative = some (next, entries)) :
      ActorTransition (.dispatch groupsAuthoritative) next entries
  | failDeferred {message} (serving : worker.phase = .serving) :
      ActorTransition (.failDeferred message) { worker with phase := .failing message } []
  | cleanup {final} (serving : worker.phase = .serving) :
      ActorTransition (.cleanup final) { worker with phase := .waiting final } []
  | failed {message} (failing : worker.phase = .failing message) (none : worker.deferred = []) :
      ActorTransition .failNext { worker with phase := .waiting true } []
  | failNext {message attachment rest} (failing : worker.phase = .failing message)
      (deferred : worker.deferred = attachment :: rest) :
      ActorTransition .failNext ({ worker with deferred := rest }.refuse attachment message).1
        ({ worker with deferred := rest }.refuse attachment message).2
  | abortTasks {final} (waiting : worker.phase = .waiting final) :
      ActorTransition .abortTasks { worker.abortTasks with phase := .draining final [] } []
  | drained {final completions} (draining : worker.phase = .draining final completions)
      (empty : worker.returned = []) :
      ActorTransition .drained { worker with phase := .finishing final completions } []
  | timeout {final}
      (cleaning : worker.phase = .waiting final ∨
        (∃ completions, worker.phase = .draining final completions) ∨
        worker.phase = .finishing final []) :
      ActorTransition .timeout (worker.abandon final) []
  | finishNext {final completed rest}
      (finishing : worker.phase = .finishing final (completed :: rest)) :
      ActorTransition .finishNext
        ({ worker with phase := .finishing final rest }.finishAttachmentCompletion completed).1
        ({ worker with phase := .finishing final rest }.finishAttachmentCompletion completed).2
  | interruptRemaining {final} (finishing : worker.phase = .finishing final []) :
      ActorTransition .interruptRemaining { worker with phase := .interrupting final } []
  | interrupt {final requestId control} (interrupting : worker.phase = .interrupting final)
      (found : worker.aborts.lookup requestId = some control) :
      ActorTransition (.interrupt requestId) (worker.interruptAttachment requestId control).1
        (worker.interruptAttachment requestId control).2
  | resume {final} (interrupting : worker.phase = .interrupting final)
      (empty : worker.aborts.keys = []) :
      ActorTransition .resume { worker with phase := if final then .stopped else .serving } []

variable {worker} in
theorem actorTransition_of_actorStep {label : AttachmentLabel} {next : AttachmentWorker}
    {entries : List AttachmentReport} (stepped : worker.actorStep label = some (next, entries)) :
    worker.ActorTransition label next entries := by
  unfold actorStep at stepped
  split at stepped
  next => exact .join stepped
  next serving => exact .defer serving stepped
  next serving => exact .dispatch serving stepped
  next serving =>
    cases stepped
    exact .failDeferred serving
  next serving =>
    cases stepped
    exact .cleanup serving
  next failing =>
    split at stepped
    next deferred =>
      cases stepped
      exact .failed failing deferred
    next deferred =>
      rcases Machine.reached_of_some stepped with ⟨rfl, rfl⟩
      exact .failNext failing deferred
  next waiting =>
    cases stepped
    exact .abortTasks waiting
  next waiting =>
    cases stepped
    exact .timeout (Or.inl waiting)
  next draining =>
    rcases Option.ite_none_right_eq_some.mp stepped with ⟨empty, same⟩
    cases same
    exact .drained draining empty
  next draining =>
    cases stepped
    exact .timeout (Or.inr (Or.inl ⟨_, draining⟩))
  next finishing =>
    rcases Machine.reached_of_some stepped with ⟨rfl, rfl⟩
    exact .finishNext finishing
  next finishing =>
    cases stepped
    exact .interruptRemaining finishing
  next finishing =>
    cases stepped
    exact .timeout (Or.inr (Or.inr finishing))
  next interrupting =>
    split at stepped
    next => cases stepped
    next found =>
      rcases Machine.reached_of_some stepped with ⟨rfl, rfl⟩
      exact .interrupt interrupting found
  next interrupting =>
    rcases Option.ite_none_right_eq_some.mp stepped with ⟨empty, same⟩
    cases same
    exact .resume interrupting empty
  next => cases stepped

def step (label : AttachmentLabel) : Option Reached :=
  match worker.clientStep label with
  | some reached => some reached
  | none =>
      match worker.taskStep label with
      | some reached => some reached
      | none => worker.actorStep label

def machine (maximumBytes : UInt64) (maximumAttachments : Nat) :
    Machine AttachmentWorker AttachmentLabel AttachmentReport where
  initial := { core := { attachments := .withLimits maximumBytes maximumAttachments } }
  step := step

end AttachmentWorker

end SignalPurple
