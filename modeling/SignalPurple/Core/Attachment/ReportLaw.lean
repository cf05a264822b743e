import SignalPurple.Core.Attachment.Reports
import SignalPurple.Foundation.History

/-! # Every run of the worker reports once

Each step of the worker is one of the moves that keep track of the open attachments. What
the moves need to know about the worker's phase is kept beside them.
-/

namespace SignalPurple

namespace WorkerPhase

def Aborted : WorkerPhase → Prop
  | .draining _ _ | .finishing _ _ | .interrupting _ => True
  | _ => False

def Drained : WorkerPhase → Prop
  | .finishing _ _ | .interrupting _ => True
  | _ => False

theorem Drained.aborted {phase : WorkerPhase} (drained : phase.Drained) : phase.Aborted := by
  cases phase <;> trivial

end WorkerPhase

structure Staged (worker : AttachmentWorker) : Prop where
  /-- While the worker serves, the map lists tasks that hold their permits. -/
  served : worker.phase = .serving → ∀ requestId ∈ worker.aborts,
    (∃ task ∈ worker.running, task.requestId = requestId) ∨
      ∃ completion ∈ worker.returned, completion.requestId = requestId
  idle : worker.phase.Aborted → worker.running = []
  drained : worker.phase.Drained → worker.returned = []

/-- A worker with everything it has reported so far. -/
structure Reporting (worker : AttachmentWorker) (history : List AttachmentReport) : Prop where
  tracked : Tracked worker.places worker.core.controls history
  staged : Staged worker

namespace AttachmentWorker

variable {worker : AttachmentWorker}

theorem places_dropPermit (worker : AttachmentWorker) (permit : AttachmentPermit) :
    (worker.dropPermit permit).places =
      { worker.places with Listed := worker.places.Unlisted permit } := by
  have listed : (worker.dropPermit permit).places.Listed = worker.places.Unlisted permit := by
    funext other
    exact propext AttachmentAdmission.mem_requests_release
  rw [← listed]
  rfl

end AttachmentWorker

namespace Staged

variable {worker : AttachmentWorker}

theorem spawn (staged : Staged worker) (serving : worker.phase = .serving)
    (attachment : SendAttachment) : Staged (worker.spawn attachment) where
  served _ := by
    intro requestId entered
    rcases (AList.mem_insert _).mp entered with rfl | earlier
    · exact .inl ⟨_, List.mem_append_right _ List.mem_cons_self, rfl⟩
    · rcases staged.served serving requestId earlier with ⟨task, runs, same⟩ | completed
      · exact .inl ⟨task, List.mem_append_left _ runs, same⟩
      · exact .inr completed
  idle aborted := by
    have phase : (worker.spawn attachment).phase = .serving := serving
    rw [phase] at aborted
    exact aborted.elim
  drained drained := by
    have phase : (worker.spawn attachment).phase = .serving := serving
    rw [phase] at drained
    exact drained.elim

theorem congr (staged : Staged worker) {other : AttachmentWorker}
    (running : other.running = worker.running) (returned : other.returned = worker.returned)
    (aborts : other.aborts = worker.aborts) (phase : other.phase = worker.phase) :
    Staged other where
  served := by
    rw [running, returned, aborts, phase]
    exact staged.served
  idle := by
    rw [running, phase]
    exact staged.idle
  drained := by
    rw [returned, phase]
    exact staged.drained

theorem of_waiting {worker : AttachmentWorker} (notServing : worker.phase ≠ .serving)
    (notAborted : ¬worker.phase.Aborted) (notDrained : ¬worker.phase.Drained) :
    Staged worker where
  served serving := absurd serving notServing
  idle aborted := absurd aborted notAborted
  drained drained := absurd drained notDrained

theorem of_draining {final : Bool} {completions : List (Option AttachmentCompletion)}
    (draining : worker.phase = .draining final completions) (idle : worker.running = []) :
    Staged worker where
  served serving := by
    rw [draining] at serving
    cases serving
  idle _ := idle
  drained drained := by
    rw [draining] at drained
    exact drained.elim

theorem idle_of_draining (staged : Staged worker) {final : Bool}
    {completions : List (Option AttachmentCompletion)}
    (draining : worker.phase = .draining final completions) : worker.running = [] := by
  apply staged.idle
  rw [draining]
  trivial

theorem of_drained (notServing : worker.phase ≠ .serving) (idle : worker.running = [])
    (drained : worker.returned = []) : Staged worker where
  served serving := absurd serving notServing
  idle _ := idle
  drained _ := drained

end Staged

/-! ## Taking a command -/

namespace AttachmentWorker

variable {worker : AttachmentWorker} {history : List AttachmentReport}
  {attachment : SendAttachment} {waiting : List SendAttachment}

/-- `worker` has taken the attachment from what was waiting before. -/
structure Taken (worker : AttachmentWorker) (attachment : SendAttachment)
    (waiting : List SendAttachment) (history : List AttachmentReport) : Prop where
  tracked : Tracked { worker.places with waiting } worker.core.controls history
  split : waiting.Perm (attachment :: worker.places.waiting)
  staged : Staged worker

theorem Taken.refuse (taken : Taken worker attachment waiting history) (message : String) :
    Reporting (worker.refuse attachment message).1
      (history ++ (worker.refuse attachment message).2) := by
  refine ⟨?_, taken.staged.congr rfl rfl rfl rfl⟩
  have refused := taken.tracked.refuse taken.split message
  simp only [AttachmentWorker.refuse]
  rw [places_dropPermit]
  exact refused

theorem Taken.dispatchAttachment (taken : Taken worker attachment waiting history)
    (serving : worker.phase = .serving)
    (free : attachment.requestId ∉ worker.aborts) (groupsAuthoritative : Bool) :
    Reporting (worker.dispatchAttachment attachment groupsAuthoritative).1
      (history ++ (worker.dispatchAttachment attachment groupsAuthoritative).2) := by
  unfold AttachmentWorker.dispatchAttachment
  split
  next cancelled =>
    refine ⟨?_, taken.staged.congr rfl rfl rfl rfl⟩
    rw [places_dropPermit, List.append_nil]
    exact taken.tracked.discard taken.split (of_decide_eq_true cancelled)
  next =>
    split
    · exact taken.refuse groupsUnavailable
    · refine ⟨?_, taken.staged.spawn serving attachment⟩
      rw [List.append_nil]
      exact taken.tracked.start taken.split free

end AttachmentWorker

namespace Reporting

variable {worker : AttachmentWorker} {history : List AttachmentReport}

theorem free_of_serving (reporting : Reporting worker history)
    (serving : worker.phase = .serving) {attachment : SendAttachment}
    {waiting : List SendAttachment}
    (split : worker.places.waiting.Perm (attachment :: waiting)) :
    attachment.requestId ∉ worker.places.aborts := by
  intro entered
  have custody := reporting.tracked.custody
  have named := custody.named attachment (split.mem_iff.mpr List.mem_cons_self)
  have holders : worker.places.holders.Perm (attachment.permit ::
      Places.holders { worker.places with waiting }) :=
    (((split.map (·.permit)).append_right _).append_right _).append_right _
  rcases reporting.staged.served serving _ entered with
    ⟨task, runs, same⟩ | ⟨completion, returned, same⟩
  · have held : task.permit ∈ Places.holders { worker.places with waiting } := by
      simp only [Places.holders, List.mem_append]
      exact .inl (.inl (.inr (List.mem_map_of_mem runs)))
    apply custody.apart_of_perm holders held
    rw [(custody.running task runs).1, same, named]
  · have member : completion ∈ worker.places.completed := List.mem_append_left _ returned
    have held : completion.permit ∈ Places.holders { worker.places with waiting } := by
      simp only [Places.holders, List.mem_append]
      exact .inl (.inr (List.mem_map_of_mem member))
    apply custody.apart_of_perm holders held
    rw [(custody.completed completion member).1, same, named]

theorem taken_deferred (reporting : Reporting worker history) {attachment : SendAttachment}
    {rest : List SendAttachment} (deferred : worker.deferred = attachment :: rest) :
    AttachmentWorker.Taken { worker with deferred := rest } attachment worker.places.waiting
      history where
  tracked := reporting.tracked
  split := by
    simp only [AttachmentWorker.places, deferred]
    exact List.perm_middle
  staged := reporting.staged.congr rfl rfl rfl rfl

theorem taken_received (reporting : Reporting worker history) {attachment : SendAttachment}
    {rest : List Command}
    (pending : worker.core.commands.pending = .sendAttachment attachment :: rest) :
    AttachmentWorker.Taken (worker.received rest) attachment worker.places.waiting
      history where
  tracked := reporting.tracked
  split := by
    simp only [AttachmentWorker.places, AttachmentWorker.channel, AttachmentWorker.received,
      pending, List.filterMap_cons, Command.attachment?, List.cons_append]
    exact List.Perm.refl _
  staged := reporting.staged.congr rfl rfl rfl rfl

theorem reorder (reporting : Reporting worker history) {next : AttachmentWorker}
    (waits : next.places.waiting.Perm worker.places.waiting)
    (returns : next.places.completed.Perm worker.places.completed)
    (same : next.places = { worker.places with
      waiting := next.places.waiting, completed := next.places.completed })
    (controls : next.core.controls = worker.core.controls) (staged : Staged next) :
    Reporting next history where
  tracked := by
    rw [same, controls]
    exact reporting.tracked.reorder waits returns
  staged := staged

theorem skip (reporting : Reporting worker history) {rest : List Command}
    (pending : worker.core.commands.pending = .other :: rest) :
    Reporting (worker.received rest) history := by
  refine reporting.reorder ?_ (List.Perm.refl _) rfl rfl ?_
  · simp only [AttachmentWorker.places, AttachmentWorker.channel, AttachmentWorker.received,
      pending, List.filterMap_cons, Command.attachment?]
    exact List.Perm.refl _
  · exact reporting.staged.congr rfl rfl rfl rfl

theorem dispatch (reporting : Reporting worker history) (serving : worker.phase = .serving)
    {groupsAuthoritative : Bool} {next : AttachmentWorker} {entries : List AttachmentReport}
    (stepped : worker.dispatch groupsAuthoritative = some (next, entries)) :
    Reporting next (history ++ entries) := by
  unfold AttachmentWorker.dispatch at stepped
  split at stepped
  next attachment rest deferred =>
    obtain ⟨rfl, rfl⟩ := Machine.reached_of_some stepped
    have taken := reporting.taken_deferred deferred
    exact taken.dispatchAttachment serving (reporting.free_of_serving serving taken.split) _
  next =>
    split at stepped
    next => cases stepped
    next rest pending =>
      cases stepped
      rw [List.append_nil]
      exact reporting.skip pending
    next attachment rest pending =>
      obtain ⟨rfl, rfl⟩ := Machine.reached_of_some stepped
      have taken := reporting.taken_received pending
      exact taken.dispatchAttachment serving (reporting.free_of_serving serving taken.split) _

theorem defer (reporting : Reporting worker history) {next : AttachmentWorker}
    {entries : List AttachmentReport} (stepped : worker.defer = some (next, entries)) :
    Reporting next (history ++ entries) := by
  unfold AttachmentWorker.defer at stepped
  split at stepped
  next => cases stepped
  next rest pending =>
    cases stepped
    rw [List.append_nil]
    exact reporting.skip pending
  next attachment rest pending =>
    cases stepped
    rw [List.append_nil]
    refine reporting.reorder ?_ (List.Perm.refl _) rfl rfl ?_
    · simp only [AttachmentWorker.places, AttachmentWorker.channel, AttachmentWorker.received,
        pending, List.filterMap_cons, Command.attachment?]
      rw [← List.append_assoc]
      exact List.perm_append_comm
    · exact reporting.staged.congr rfl rfl rfl rfl

/-! ## The client -/

theorem ease (reporting : Reporting worker history) {controls : AttachmentControls}
    (eased : Eased worker.core.controls controls) :
    Reporting (worker.withControls controls) history where
  tracked := reporting.tracked.ease eased
  staged := reporting.staged.congr rfl rfl rfl rfl

theorem enter (reporting : Reporting worker history) (attachment : SendAttachment)
    (size : UInt64) (named : attachment.permit.requestId = attachment.requestId)
    (fresh : attachment.requestId ∉ worker.core.attachments.state.requests)
    (unused : attachment.permit.control = worker.core.controls.next) :
    Reporting { worker with core := { worker.core with
        attachments := worker.core.attachments.reserved attachment.requestId size
          worker.core.controls.next
        controls := worker.core.controls.new.2
        commands := worker.core.commands.send (.sendAttachment attachment) } }
      (history ++ [.admitted attachment]) where
  tracked := by
    have entered := reporting.tracked.enter named fresh unused
    have listed : (fun requestId => requestId = attachment.requestId ∨
          worker.places.Listed requestId) =
        fun requestId => requestId ∈ worker.core.attachments.state.requests.insert
          attachment.requestId { bytes := size, control := worker.core.controls.next } := by
      funext requestId
      exact propext (AList.mem_insert _).symm
    rw [listed] at entered
    refine entered.reorder ?_ (List.Perm.refl _)
    simp only [AttachmentWorker.places, AttachmentWorker.channel, CommandChannel.send,
      List.filterMap_append, List.filterMap_cons, List.filterMap_nil, Command.attachment?,
      List.append_assoc]
    exact List.perm_middle
  staged := reporting.staged.congr rfl rfl rfl rfl

theorem clientStep (reporting : Reporting worker history) {label : AttachmentLabel}
    {next : AttachmentWorker} {entries : List AttachmentReport}
    (stepped : worker.clientStep label = some (next, entries)) :
    Reporting next (history ++ entries) := by
  cases label with
  | queue requestId group checked =>
      obtain ⟨rfl, rfl⟩ := Machine.reached_of_some stepped
      rcases worker.core.queueAttachment_cases requestId group checked with
        ⟨status, _, refused⟩ | ⟨admits, ⟨status, _, dropped⟩ | queued⟩
      · rw [refused]
        simp only [List.drop_length, List.filterMap_nil, List.map_nil, List.append_nil]
        exact reporting
      · rw [dropped]
        simp only [List.drop_length, List.filterMap_nil, List.map_nil, List.append_nil]
        exact reporting.ease (Eased.new worker.core.controls)
      · rw [queued]
        simp only [CommandChannel.send, List.drop_left, List.filterMap_cons,
          List.filterMap_nil, Command.attachment?, List.map_cons, List.map_nil]
        exact reporting.enter (checked.command requestId group
          { requestId, control := worker.core.controls.next }) checked.size rfl admits.fresh rfl
  | queueOther =>
      simp only [AttachmentWorker.clientStep] at stepped
      split at stepped
      · cases stepped
        rw [List.append_nil]
        refine reporting.reorder ?_ (List.Perm.refl _) rfl rfl ?_
        · simp only [AttachmentWorker.places, AttachmentWorker.channel, CommandChannel.send,
            List.filterMap_append, List.filterMap_cons, List.filterMap_nil,
            Command.attachment?, List.append_nil]
          exact List.Perm.refl _
        · exact reporting.staged.congr rfl rfl rfl rfl
      · cases stepped
        rwa [List.append_nil]
  | cancel requestId =>
      cases stepped
      rw [List.append_nil]
      exact reporting.ease (Eased.cancelRequest _ _ requestId)
  | cancelAll =>
      cases stepped
      rw [List.append_nil]
      exact reporting.ease (Eased.cancelAll _ _)
  | _ => cases stepped

/-! ## The tasks -/

theorem taskReturned (reporting : Reporting worker history) {task : AttachmentTask}
    {controls : AttachmentControls} {result : AttachmentTaskResult}
    {entries : List AttachmentReport} (runs : task ∈ worker.running)
    (tracked : Tracked { worker.places with
        running := worker.running.erase task
        completed := { requestId := task.requestId, result, permit := task.permit } ::
          worker.places.completed } controls (history ++ entries)) :
    Reporting ((worker.withControls controls).taskReturned task result)
      (history ++ entries) where
  tracked := by
    refine tracked.reorder (List.Perm.refl _) ?_
    simp only [AttachmentWorker.places, AttachmentWorker.taskReturned,
      AttachmentWorker.withControls, List.append_assoc, List.cons_append, List.nil_append]
    exact List.perm_middle
  staged := {
    served := by
      intro serving requestId entered
      rcases reporting.staged.served serving requestId entered with
        ⟨other, running, same⟩ | ⟨completion, returned, same⟩
      · by_cases one : other = task
        · rw [one] at same
          exact .inr ⟨_, List.mem_append_right _ List.mem_cons_self, same⟩
        · exact .inl ⟨other, (List.mem_erase_of_ne one).mpr running, same⟩
      · exact .inr ⟨completion, List.mem_append_left _ returned, same⟩
    idle := by
      intro aborted
      have idle := reporting.staged.idle aborted
      rw [idle] at runs
      cases runs
    drained := by
      intro drained
      have idle := reporting.staged.idle drained.aborted
      rw [idle] at runs
      cases runs }

theorem taskStep (reporting : Reporting worker history) {label : AttachmentLabel}
    {next : AttachmentWorker} {entries : List AttachmentReport}
    (stepped : worker.taskStep label = some (next, entries)) :
    Reporting next (history ++ entries) := by
  cases label with
  | upload task outcome =>
      simp only [AttachmentWorker.taskStep] at stepped
      split at stepped
      next runs =>
        obtain ⟨rfl, rfl⟩ := Machine.reached_of_some stepped
        exact reporting.taskReturned runs
          (reporting.tracked.upload (List.perm_cons_erase runs) outcome)
      next => cases stepped
  | uploadAborted task =>
      simp only [AttachmentWorker.taskStep] at stepped
      split at stepped
      next aborted =>
        cases stepped
        have cancelled := reporting.tracked.lives.sound task.permit.control aborted.2
        apply reporting.taskReturned aborted.1
        rw [List.append_nil]
        exact reporting.tracked.taskReturned (List.perm_cons_erase aborted.1)
          (fun _ => cancelled) AttachmentTaskResult.noConfusion
      next => cases stepped
  | reap permit =>
      simp only [AttachmentWorker.taskStep] at stepped
      split at stepped
      next member =>
        cases stepped
        rw [List.append_nil]
        refine ⟨?_, reporting.staged.congr rfl rfl rfl rfl⟩
        rw [AttachmentWorker.places_dropPermit]
        exact reporting.tracked.reap (List.perm_cons_erase member)
      next => cases stepped
  | _ => cases stepped

/-! ## Joining, and the cleanup -/

theorem rephase (reporting : Reporting worker history) {phase : WorkerPhase}
    (collected : phase.collected = worker.phase.collected)
    (staged : Staged { worker with phase }) : Reporting { worker with phase } history where
  tracked := by
    have same : AttachmentWorker.places { worker with phase } = worker.places := by
      simp only [AttachmentWorker.places, collected]
      rfl
    rw [same]
    exact reporting.tracked
  staged := staged

theorem rephaseWaiting (reporting : Reporting worker history) {before phase : WorkerPhase}
    (was : worker.phase = before) (collected : phase.collected = before.collected)
    (notServing : phase ≠ .serving) (notAborted : ¬phase.Aborted) (notDrained : ¬phase.Drained) :
    Reporting { worker with phase } history := by
  apply reporting.rephase
  · rw [was, collected]
  · exact Staged.of_waiting notServing notAborted notDrained

theorem tracked_finish (worker : AttachmentWorker) {completion : AttachmentCompletion}
    (completed : List AttachmentCompletion)
    (tracked : Tracked { worker.places with completed } worker.core.controls history)
    (split : completed.Perm (completion :: worker.places.completed)) :
    Tracked (worker.finishAttachmentCompletion (some completion)).1.places
      (worker.finishAttachmentCompletion (some completion)).1.core.controls
      (history ++ (worker.finishAttachmentCompletion (some completion)).2) := by
  simp only [AttachmentWorker.finishAttachmentCompletion]
  rw [AttachmentWorker.places_dropPermit]
  exact tracked.finish split

theorem completed_erase {completion : AttachmentCompletion}
    (returned : completion ∈ worker.returned) (phase : WorkerPhase) :
    (worker.returned ++ phase.collected).Perm
      (completion :: (worker.returned.erase completion ++ phase.collected)) :=
  (List.perm_cons_erase returned).append_right _

theorem joinServing (reporting : Reporting worker history)
    (serving : worker.phase = .serving) {completion : AttachmentCompletion}
    (returned : completion ∈ worker.returned) :
    Reporting ({ worker with returned := worker.returned.erase completion
        }.finishAttachmentCompletion (some completion)).1
      (history ++ ({ worker with returned := worker.returned.erase completion
        }.finishAttachmentCompletion (some completion)).2) where
  tracked := tracked_finish { worker with returned := worker.returned.erase completion }
    worker.places.completed reporting.tracked (completed_erase returned worker.phase)
  staged := {
    served := by
      intro _ requestId entered
      obtain ⟨apart, earlier⟩ := AList.mem_erase.mp entered
      rcases reporting.staged.served serving requestId earlier with running | completed
      · exact .inl running
      · obtain ⟨other, member, same⟩ := completed
        refine .inr ⟨other, (List.mem_erase_of_ne ?_).mpr member, same⟩
        rintro rfl
        exact apart same.symm
    idle := by
      intro aborted
      exact reporting.staged.idle aborted
    drained := by
      intro drained
      rw [reporting.staged.drained drained] at returned
      cases returned }

end Reporting

namespace AttachmentWorker

theorem dropPermits_eq (worker : AttachmentWorker) (permits : List AttachmentPermit) :
    ∃ attachments, worker.dropPermits permits =
      { worker with core := { worker.core with attachments } } := by
  induction permits generalizing worker with
  | nil => exact ⟨worker.core.attachments, rfl⟩
  | cons permit rest induction =>
      obtain ⟨attachments, same⟩ := induction (worker.dropPermit permit)
      exact ⟨attachments, same⟩

theorem tracked_dropPermits {history : List AttachmentReport}
    (completed : List AttachmentCompletion) (worker : AttachmentWorker)
    (tracked : Tracked { worker.places with completed } worker.core.controls history) :
    Tracked { (worker.dropPermits (completed.map (·.permit))).places with completed := [] }
      worker.core.controls history := by
  induction completed generalizing worker with
  | nil => exact tracked
  | cons completion rest induction =>
      apply induction (worker.dropPermit completion.permit)
      rw [places_dropPermit]
      exact tracked.lose (List.Perm.refl _)

end AttachmentWorker

namespace Reporting

variable {worker : AttachmentWorker} {history : List AttachmentReport}

theorem abandon (reporting : Reporting worker history) (final : Bool) :
    Reporting (worker.abandon final) history := by
  have aborted : Tracked worker.abortTasks.places worker.core.controls history :=
    reporting.tracked.abort
  have dropped := AttachmentWorker.tracked_dropPermits
    (worker.returned ++ worker.phase.collected) worker.abortTasks aborted
  rw [List.map_append] at dropped
  obtain ⟨attachments, same⟩ := worker.abortTasks.dropPermits_eq
    (worker.returned.map (·.permit) ++ worker.phase.collected.map (·.permit))
  unfold AttachmentWorker.abandon
  rw [same] at dropped ⊢
  exact ⟨dropped, Staged.of_drained WorkerPhase.noConfusion rfl rfl⟩

theorem joinStopped (reporting : Reporting worker history)
    (serving : worker.phase = .serving) {completion : AttachmentCompletion}
    (returned : completion ∈ worker.returned) :
    Reporting { AttachmentWorker.dropPermit
        { worker with returned := worker.returned.erase completion } completion.permit with
      phase := .waiting true } history where
  tracked := by
    have split := completed_erase returned worker.phase
    have lost := reporting.tracked.lose split
    have same : AttachmentWorker.places { AttachmentWorker.dropPermit
          { worker with returned := worker.returned.erase completion } completion.permit with
        phase := .waiting true } =
      { worker.places with
        completed := worker.returned.erase completion ++ worker.phase.collected
        Listed := worker.places.Unlisted completion.permit } := by
      have dropped := AttachmentWorker.places_dropPermit
        { worker with returned := worker.returned.erase completion, phase := .waiting true }
        completion.permit
      rw [serving]
      exact dropped
    rw [same]
    exact lost
  staged := Staged.of_waiting WorkerPhase.noConfusion id id

theorem joinDraining (reporting : Reporting worker history) {final : Bool}
    {completions : List (Option AttachmentCompletion)}
    (draining : worker.phase = .draining final completions)
    {completion : AttachmentCompletion} (returned : completion ∈ worker.returned) :
    Reporting { worker with
      returned := worker.returned.erase completion
      phase := .draining final (completions ++ [some completion]) } history := by
  refine reporting.reorder (List.Perm.refl _) ?_ rfl rfl ?_
  · have split := completed_erase returned worker.phase
    simp only [AttachmentWorker.places, draining, WorkerPhase.collected, List.filterMap_append,
      List.filterMap_cons, List.filterMap_nil, id] at split ⊢
    refine List.Perm.trans ?_ split.symm
    rw [← List.append_assoc]
    exact List.perm_append_comm
  · exact Staged.of_draining rfl (reporting.staged.idle_of_draining draining)

theorem joinNone (reporting : Reporting worker history) {stopped : Bool}
    {next : AttachmentWorker} {entries : List AttachmentReport}
    (stepped : worker.join none stopped = some (next, entries)) :
    Reporting next (history ++ entries) := by
  unfold AttachmentWorker.join at stepped
  split at stepped
  next serving =>
    split at stepped
    · cases stepped
      rw [List.append_nil]
      exact reporting.rephaseWaiting serving rfl WorkerPhase.noConfusion id id
    · cases stepped
      rwa [List.append_nil]
  next final completions draining =>
    cases stepped
    rw [List.append_nil]
    apply reporting.rephase
    · rw [draining]
      simp [WorkerPhase.collected]
    · exact Staged.of_draining rfl (reporting.staged.idle_of_draining draining)
  next => cases stepped

theorem joinTask (reporting : Reporting worker history)
    {completed : Option AttachmentCompletion} {stopped : Bool} {next : AttachmentWorker}
    {entries : List AttachmentReport}
    (stepped : worker.joinTask completed stopped = some (next, entries)) :
    Reporting next (history ++ entries) := by
  cases completed with
  | none => exact reporting.joinNone stepped
  | some completion =>
      simp only [AttachmentWorker.joinTask] at stepped
      split at stepped
      next returned =>
        unfold AttachmentWorker.join at stepped
        split at stepped
        next serving =>
          split at stepped
          · cases stepped
            rw [List.append_nil]
            exact reporting.joinStopped serving returned
          · obtain ⟨rfl, rfl⟩ := Machine.reached_of_some stepped
            exact reporting.joinServing serving returned
        next final completions draining =>
          cases stepped
          rw [List.append_nil]
          exact reporting.joinDraining draining returned
        next => cases stepped
      next => cases stepped

theorem finishNext (reporting : Reporting worker history) {final : Bool}
    {completed : Option AttachmentCompletion} {rest : List (Option AttachmentCompletion)}
    (finishing : worker.phase = .finishing final (completed :: rest)) :
    Reporting ({ worker with phase := .finishing final rest
        }.finishAttachmentCompletion completed).1
      (history ++ ({ worker with phase := .finishing final rest
        }.finishAttachmentCompletion completed).2) := by
  have idle : worker.running = [] := reporting.staged.idle (by rw [finishing]; trivial)
  have drained : worker.returned = [] := reporting.staged.drained (by rw [finishing]; trivial)
  cases completed with
  | none =>
      simp only [AttachmentWorker.finishAttachmentCompletion, List.append_nil]
      apply reporting.rephase
      · rw [finishing]
        rfl
      · exact Staged.of_drained WorkerPhase.noConfusion idle drained
  | some completion =>
      refine ⟨tracked_finish { worker with phase := .finishing final rest }
        worker.places.completed reporting.tracked ?_,
        Staged.of_drained WorkerPhase.noConfusion idle drained⟩
      simp only [AttachmentWorker.places, finishing, WorkerPhase.collected, List.filterMap_cons,
        id]
      exact List.perm_middle

theorem interruptEntry (reporting : Reporting worker history) {final : Bool}
    (interrupting : worker.phase = .interrupting final) {requestId : UInt64}
    {control : AttachmentControl} (found : worker.aborts.lookup requestId = some control) :
    (worker.core.controls.lifecycle control = .cancelled →
      Reporting { worker with aborts := worker.aborts.erase requestId } history) ∧
    Reporting ({ worker with aborts := worker.aborts.erase requestId }.withControls
        (worker.core.controls.claimTerminal control).2)
      (history ++ [AttachmentWorker.requestErrorReport requestId control
        AttachmentWorker.interruptedMessage]) := by
  have idle : worker.running = [] := reporting.staged.idle (by rw [interrupting]; trivial)
  have drained : worker.returned = [] :=
    reporting.staged.drained (by rw [interrupting]; trivial)
  have nothing : worker.places.completed = [] := by
    simp only [AttachmentWorker.places, drained, interrupting, WorkerPhase.collected,
      List.append_nil]
  have notServing : worker.phase ≠ .serving := by
    rw [interrupting]
    exact WorkerPhase.noConfusion
  obtain ⟨forgotten, reported⟩ := reporting.tracked.interrupt idle nothing found
  exact ⟨fun cancelled => ⟨forgotten cancelled, Staged.of_drained notServing idle drained⟩,
    reported, Staged.of_drained notServing idle drained⟩

theorem interruptAttachment (reporting : Reporting worker history) {final : Bool}
    (interrupting : worker.phase = .interrupting final) {requestId : UInt64}
    {control : AttachmentControl} (found : worker.aborts.lookup requestId = some control) :
    Reporting (worker.interruptAttachment requestId control).1
      (history ++ (worker.interruptAttachment requestId control).2) := by
  obtain ⟨forgotten, reported⟩ := reporting.interruptEntry interrupting found
  unfold AttachmentWorker.interruptAttachment
  split
  next cancelled =>
    rw [List.append_nil]
    exact forgotten (of_decide_eq_true cancelled)
  next => exact reported

theorem failNext (reporting : Reporting worker history) {message : String}
    {attachment : SendAttachment} {rest : List SendAttachment}
    (deferred : worker.deferred = attachment :: rest) :
    Reporting ({ worker with deferred := rest }.refuse attachment message).1
      (history ++ ({ worker with deferred := rest }.refuse attachment message).2) :=
  (reporting.taken_deferred deferred).refuse message

theorem resume (reporting : Reporting worker history) {final : Bool}
    (interrupting : worker.phase = .interrupting final) (empty : worker.aborts.keys = []) :
    Reporting { worker with phase := if final then .stopped else .serving } history := by
  have idle : worker.running = [] := reporting.staged.idle (by rw [interrupting]; trivial)
  have drained : worker.returned = [] :=
    reporting.staged.drained (by rw [interrupting]; trivial)
  apply reporting.rephase
  · rw [interrupting]
    cases final <;> rfl
  · refine ⟨fun _ requestId entered => ?_, fun _ => idle, fun _ => drained⟩
    have listed : requestId ∈ worker.aborts.keys := AList.mem_keys.mp entered
    rw [empty] at listed
    cases listed

theorem actorStep (reporting : Reporting worker history) {label : AttachmentLabel}
    {next : AttachmentWorker} {entries : List AttachmentReport}
    (stepped : worker.actorStep label = some (next, entries)) :
    Reporting next (history ++ entries) := by
  cases AttachmentWorker.actorTransition_of_actorStep stepped with
  | join joined => exact reporting.joinTask joined
  | defer serving deferred => exact reporting.defer deferred
  | dispatch serving dispatched => exact reporting.dispatch serving dispatched
  | failDeferred phase | cleanup phase | failed phase =>
      rw [List.append_nil]
      exact reporting.rephaseWaiting phase rfl WorkerPhase.noConfusion id id
  | failNext failing deferred => exact reporting.failNext deferred
  | abortTasks waiting =>
      rw [List.append_nil]
      refine ⟨?_, Staged.of_draining rfl rfl⟩
      have aborted := reporting.tracked.abort
      simp only [AttachmentWorker.places, waiting, WorkerPhase.collected] at aborted
      exact aborted
  | drained draining empty =>
      rw [List.append_nil]
      apply reporting.rephase
      · rw [draining]
        rfl
      · exact Staged.of_drained WorkerPhase.noConfusion
          (reporting.staged.idle_of_draining draining) empty
  | timeout =>
      rw [List.append_nil]
      exact reporting.abandon _
  | finishNext finishing => exact reporting.finishNext finishing
  | interruptRemaining finishing =>
      rw [List.append_nil]
      apply reporting.rephase
      · rw [finishing]
        rfl
      · exact Staged.of_drained WorkerPhase.noConfusion
          (reporting.staged.idle (by rw [finishing]; trivial))
          (reporting.staged.drained (by rw [finishing]; trivial))
  | interrupt interrupting found => exact reporting.interruptAttachment interrupting found
  | resume interrupting empty =>
      rw [List.append_nil]
      exact reporting.resume interrupting empty

theorem step (reporting : Reporting worker history) {label : AttachmentLabel}
    {next : AttachmentWorker} {entries : List AttachmentReport}
    (stepped : worker.step label = some (next, entries)) :
    Reporting next (history ++ entries) := by
  unfold AttachmentWorker.step at stepped
  split at stepped
  next reached client =>
    rw [stepped] at client
    exact reporting.clientStep client
  next =>
    split at stepped
    next reached task =>
      rw [stepped] at task
      exact reporting.taskStep task
    next => exact reporting.actorStep stepped

end Reporting

theorem reporting_initial (maximumBytes : UInt64) (maximumAttachments : Nat) :
    Reporting (AttachmentWorker.machine maximumBytes maximumAttachments).initial [] where
  tracked := {
    custody := by
      constructor <;> simp [AttachmentWorker.machine, AttachmentWorker.places, Places.holders,
        AttachmentWorker.channel, WorkerPhase.collected]
    lives := by
      constructor <;> simp [AttachmentWorker.machine, AttachmentWorker.places,
        AttachmentWorker.channel, WorkerPhase.collected]
    evidence := by
      constructor <;> simp [AttachmentWorker.machine, AttachmentWorker.places,
        AttachmentWorker.channel, WorkerPhase.collected]
    ledger := Balanced.empty
    used := by simp [issuedControls] }
  staged := {
    served := by simp [AttachmentWorker.machine]
    idle := fun _ => rfl
    drained := fun _ => rfl }

/-! ## The law -/

def reports (history : List AttachmentReport) : List (AttachmentControl × Event) :=
  history.filterMap fun
    | .reported control event => some (control, event)
    | _ => none

def reportsOf (control : AttachmentControl) (history : List AttachmentReport) : List Event :=
  ((reports history).filter (·.1 = control)).map (·.2)

def terminalEvents (requestId : UInt64) (history : List AttachmentReport) : List Event :=
  ((reports history).filter (·.2.requestId = requestId)).map (·.2)

def admissionsOf (requestId : UInt64) (history : List AttachmentReport) :
    List SendAttachment :=
  (history.filterMap fun
    | .admitted attachment => some attachment
    | _ => none).filter (·.requestId = requestId)

structure ReportLaw (worker : AttachmentWorker) (history : List AttachmentReport) : Prop where
  atMostOnce : ∀ control, (reportsOf control history).length ≤ 1
  /-- An id that is admitted once gets one terminal event at most. -/
  perRequest : ∀ requestId,
    (terminalEvents requestId history).length ≤ (admissionsOf requestId history).length
  /-- What left the channel and is neither deferred nor in the map was reported, unless it
  was cancelled. -/
  exactlyOnce : ∀ attachment, .admitted attachment ∈ history →
    attachment ∉ worker.channel → attachment ∉ worker.deferred →
    worker.aborts.lookup attachment.requestId ≠ some attachment.permit.control →
    worker.core.controls.lifecycle attachment.permit.control ≠ .cancelled →
      ∃ event, reportsOf attachment.permit.control history = [event] ∧
        event.requestId = attachment.requestId
  sentOnlyIfUploaded : ∀ control event, .reported control event ∈ history →
    event.kind = .attachmentSent → .uploaded control .sent ∈ history

theorem reportedControls_eq (history : List AttachmentReport) :
    reportedControls history = (reports history).map (·.1) := by
  induction history with
  | nil => rfl
  | cons entry rest induction =>
      cases entry with
      | admitted attachment => exact induction
      | uploaded control outcome => exact induction
      | reported control event => exact congrArg (control :: ·) induction

theorem mem_reports {control : AttachmentControl} {event : Event}
    {history : List AttachmentReport} :
    (control, event) ∈ reports history ↔ .reported control event ∈ history := by
  constructor
  · intro member
    obtain ⟨entry, listed, same⟩ := List.mem_filterMap.mp member
    cases entry with
    | admitted attachment => cases same
    | uploaded control outcome => cases same
    | reported control event =>
        cases same
        exact listed
  · intro listed
    exact List.mem_filterMap.mpr ⟨_, listed, rfl⟩

namespace Reporting

variable {worker : AttachmentWorker} {history : List AttachmentReport}

theorem distinct_reports (reporting : Reporting worker history)
    (keep : AttachmentControl × Event → Bool) :
    (((reports history).filter keep).map (·.1)).Nodup := by
  have once := reporting.tracked.ledger.reportedOnce
  rw [reportedControls_eq] at once
  exact once.sublist (List.filter_sublist.map _)

theorem length_reportsOf (reporting : Reporting worker history) (control : AttachmentControl) :
    (reportsOf control history).length ≤ 1 := by
  have distinct := reporting.distinct_reports (·.1 = control)
  have named : ((reports history).filter (·.1 = control)).map (·.1) =
      List.replicate (reportsOf control history).length control := by
    rw [reportsOf, List.length_map, List.eq_replicate_iff]
    refine ⟨List.length_map _, ?_⟩
    intro other member
    obtain ⟨report, filtered, rfl⟩ := List.mem_map.mp member
    exact of_decide_eq_true (List.mem_filter.mp filtered).2
  rw [named, List.nodup_replicate] at distinct
  exact distinct

theorem length_terminalEvents (reporting : Reporting worker history) (requestId : UInt64) :
    (terminalEvents requestId history).length ≤ (admissionsOf requestId history).length := by
  have distinct := reporting.distinct_reports (·.2.requestId = requestId)
  -- Different reports under the id are about different admissions under it.
  have admitted : ((reports history).filter (·.2.requestId = requestId)).map (·.1) ⊆
      (admissionsOf requestId history).map (·.permit.control) := by
    intro control member
    obtain ⟨⟨_, event⟩, filtered, rfl⟩ := List.mem_map.mp member
    obtain ⟨listed, named⟩ := List.mem_filter.mp filtered
    obtain ⟨⟨attachment, entered, same, carried⟩, _⟩ :=
      reporting.tracked.evidence.reports _ _ (mem_reports.mp listed)
    refine List.mem_map.mpr ⟨attachment, ?_, same⟩
    refine List.mem_filter.mpr ⟨List.mem_filterMap.mpr ⟨_, entered, rfl⟩, ?_⟩
    exact decide_eq_true (carried.trans (of_decide_eq_true named))
  have bound := (List.subperm_of_subset distinct admitted).length_le
  simpa [terminalEvents] using bound

theorem eq_of_control (reporting : Reporting worker history) {one other : SendAttachment}
    (first : .admitted one ∈ history) (second : .admitted other ∈ history)
    (same : one.permit.control = other.permit.control) : one = other := by
  have equal := History.eq_of_same_key reporting.tracked.ledger.issuedOnce first second rfl
    (congrArg some same.symm)
  exact AttachmentReport.admitted.inj equal

theorem closed_of_gone (reporting : Reporting worker history) {attachment : SendAttachment}
    (admitted : .admitted attachment ∈ history) (taken : attachment ∉ worker.channel)
    (notDeferred : attachment ∉ worker.deferred)
    (gone : worker.aborts.lookup attachment.requestId ≠ some attachment.permit.control) :
    attachment.permit.control ∉ worker.places.opened := by
  intro isOpen
  rcases List.mem_append.mp isOpen with waits | listed
  · obtain ⟨other, waiting, same⟩ := List.mem_map.mp waits
    have equal := reporting.eq_of_control
      (reporting.tracked.evidence.waiting other waiting) admitted same
    rw [equal] at waiting
    rcases List.mem_append.mp waiting with channel | deferred
    · exact taken channel
    · exact notDeferred deferred
  · obtain ⟨⟨requestId, control⟩, entry, same⟩ := List.mem_map.mp listed
    have found : worker.aborts.lookup requestId = some control := AList.mem_lookup_iff.mpr entry
    obtain ⟨other, entered, held, named⟩ := reporting.tracked.evidence.aborts _ _ found
    have equal := reporting.eq_of_control entered admitted (held.trans same)
    rw [equal] at named
    apply gone
    rw [named, found]
    exact congrArg some same

theorem law (reporting : Reporting worker history) : ReportLaw worker history where
  atMostOnce := reporting.length_reportsOf
  perRequest := reporting.length_terminalEvents
  exactlyOnce := by
    intro attachment admitted taken notDeferred gone live
    have issued : attachment.permit.control ∈ issuedControls history :=
      List.mem_filterMap.mpr ⟨_, admitted, rfl⟩
    have answered := reporting.tracked.ledger.reported_of_closed issued
      (reporting.closed_of_gone admitted taken notDeferred gone) live
    rw [reportedControls_eq] at answered
    obtain ⟨⟨_, event⟩, listed, rfl⟩ := List.mem_map.mp answered
    obtain ⟨⟨other, entered, same, carried⟩, _⟩ :=
      reporting.tracked.evidence.reports _ _ (mem_reports.mp listed)
    have equal := reporting.eq_of_control entered admitted same
    have reported : event ∈ reportsOf attachment.permit.control history :=
      List.mem_map.mpr ⟨_, List.mem_filter.mpr ⟨listed, decide_eq_true rfl⟩, rfl⟩
    obtain ⟨only, one⟩ := List.length_eq_one_iff.mp (Nat.le_antisymm
      (reporting.length_reportsOf _) (List.length_pos_of_mem reported))
    rw [one, List.mem_singleton] at reported
    exact ⟨only, one, by rw [← reported, ← carried, equal]⟩
  sentOnlyIfUploaded := by
    intro control event reported sent
    rcases (reporting.tracked.evidence.reports control event reported).2 with
      failed | ⟨_, uploaded⟩
    · rw [failed] at sent
      cases sent
    · exact uploaded

end Reporting

/-- In every run of the worker each admitted attachment is reported at most once, and exactly
once when the worker is through with it, unless it was cancelled. -/
theorem reportLaw_of_run {maximumBytes : UInt64} {maximumAttachments : Nat}
    {labels : List AttachmentLabel} {worker : AttachmentWorker}
    {history : List AttachmentReport}
    (runs : (AttachmentWorker.machine maximumBytes maximumAttachments).run labels =
      some (worker, history)) :
    ReportLaw worker history := by
  have reporting : Reporting worker history := by
    apply Machine.run_invariant _ (reporting_initial maximumBytes maximumAttachments) _ runs
    intro state earlier label next entries holds stepped
    exact holds.step stepped
  exact reporting.law

def sampleAttachment : CheckedAttachment where
  recipient := "aci:recipient"
  filename := "photo.png"
  contentType := "image/png"
  data := .data [1, 2, 3, 4]
  size := 4

/-- The first attachment is sent, the second refused because its group is not known yet, and
the third interrupted by a recovery that runs out of time. -/
def sampleReports : List AttachmentLabel :=
  [.queue 1 false sampleAttachment, .queue 2 true sampleAttachment, .dispatch true,
    .dispatch false, .upload { requestId := 1, permit := { requestId := 1, control := 0 } } .sent,
    .join (some { requestId := 1, result := .sent, permit := { requestId := 1, control := 0 } })
      false,
    .queue 3 false sampleAttachment, .dispatch true, .cleanup false, .timeout, .interrupt 3,
    .resume]

theorem reportLaw_of_sampleReports :
    ∃ worker history,
      (AttachmentWorker.machine maxAdmittedOutgoingAttachmentBytes
        maxAdmittedOutgoingAttachments).run sampleReports = some (worker, history) ∧
      ReportLaw worker history ∧ reportedControls history = [1, 0, 2] := by
  have defined : ((AttachmentWorker.machine maxAdmittedOutgoingAttachmentBytes
      maxAdmittedOutgoingAttachments).run sampleReports).any
        (reportedControls ·.2 = [1, 0, 2]) = true := by decide +kernel
  obtain ⟨⟨worker, history⟩, runs, reported⟩ := (Option.any_eq_true _ _).mp defined
  exact ⟨worker, history, runs, reportLaw_of_run runs, of_decide_eq_true reported⟩

end SignalPurple
