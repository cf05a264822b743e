import SignalPurple.Core.Attachment.Effects

/-! # What a cancellation silences

Neither a failed result nor a refusal is about a request that was cancelled before. Only an
interruption that has found its request alive emits its event whatever the claim says, so a
cancellation that comes in between is followed by an error after all.
-/

namespace SignalPurple

open History

namespace CancellationRun

def observed (history : List CancellationEntry) : List AttachmentReport :=
  history.filterMap CancellationEntry.report?

def Admitted (requestId : UInt64) (control : AttachmentControl)
    (history : List CancellationEntry) : Prop :=
  ∃ attachment, .report (.admitted attachment) ∈ history ∧ attachment.requestId = requestId ∧
    attachment.permit.control = control

structure Silenced (history : List CancellationEntry) : Prop where
  /-- No error event is about a request that was cancelled before. -/
  request : ∀ requestId control event,
    Precedes (.cancelled requestId control) (.report (.reported control event)) history →
      event.kind ≠ .error
  /-- So none bears the id of one, unless the id was used again. -/
  id : ∀ requestId control other event,
    Precedes (.cancelled requestId control) (.report (.reported other event)) history →
    event.requestId = requestId →
    (admissionsOf requestId (observed history)).length = 1 → event.kind ≠ .error

/-- The cancellation has succeeded after an interruption looked, and so before its claim. -/
def Caught (control : AttachmentControl) (history : List CancellationEntry) : Prop :=
  ∃ requestId, Precedes (.spared control) (.cancelled requestId control) history

/-- The worker's thread is between the load and the claim of an interruption. -/
def IsInterrupting (state : CancellationRun) (control : AttachmentControl) : Prop :=
  ∃ requestId, state.pause = .interrupting requestId control

def inHand (state : CancellationRun) : List SendAttachment :=
  match state.pause with
  | .rejecting attachment => [attachment]
  | .running | .interrupting _ _ => []

def together (state : CancellationRun) : AttachmentWorker :=
  { state.worker with deferred := state.inHand ++ state.worker.deferred }

abbrev lifecycle (state : CancellationRun) (control : AttachmentControl) : AttachmentLifecycle :=
  state.worker.core.controls.lifecycle control

end CancellationRun

theorem AttachmentWorker.Taken.putBack {worker : AttachmentWorker} {attachment : SendAttachment}
    {waiting : List SendAttachment} {history : List AttachmentReport}
    (taken : worker.Taken attachment waiting history) :
    Reporting { worker with deferred := attachment :: worker.deferred } history where
  tracked := taken.tracked.reorder (List.perm_middle.trans taken.split.symm) (List.Perm.refl _)
  staged := taken.staged.congr rfl rfl rfl rfl

namespace CancellationRun

/-! ## What a step may do -/

structure Advance (state next : CancellationRun) (entries : List CancellationEntry) : Prop where
  kept : Kept state.worker.core.controls next.worker.core.controls
  completed : ∀ completion ∈ next.worker.places.completed,
    completion ∈ state.worker.places.completed ∨ completion.Claimed next.worker.core.controls
  listed : ∀ requestId control, next.worker.Lists requestId control →
    state.worker.Lists requestId control ∨ Admitted requestId control entries
  cancelling : ∀ request ∈ next.cancelling,
    request ∈ state.cancelling ∨ state.worker.Lists request.1 request.2
  aborting : ∀ control, next.aborting = some control →
    state.aborting = some control ∨ ∃ requestId, .cancelled requestId control ∈ entries
  alone : ∀ requestId control, .cancelled requestId control ∈ entries →
    entries = [.cancelled requestId control]
  cancelled : ∀ requestId control, .cancelled requestId control ∈ entries →
    (requestId, control) ∈ state.cancelling ∧ state.lifecycle control = .active ∧
      next.lifecycle control = .cancelled
  spared : ∀ control, .spared control ∈ entries →
    state.lifecycle control ≠ .cancelled ∧ next.IsInterrupting control
  paused : ∀ requestId control, next.pause = .interrupting requestId control →
    next.worker.aborts.lookup requestId = some control ∧
      (∃ final, next.worker.phase = .interrupting final) ∧
      (state.pause = .interrupting requestId control ∨ .spared control ∈ entries)
  /-- An interruption goes on until it has emitted its event. -/
  resumed : ∀ control, state.IsInterrupting control → next.IsInterrupting control ∨
    next.lifecycle control ≠ .active ∧
      ∃ event, event.kind = .error ∧ .report (.reported control event) ∈ entries
  /-- Any other error event needs a claim, in the step or by a task before. -/
  failed : ∀ control event, .report (.reported control event) ∈ entries → event.kind = .error →
    next.lifecycle control = .terminal ∨ state.IsInterrupting control ∨
      ∃ completion ∈ state.worker.places.completed, completion.permit.control = control ∧
        ∃ error, completion.result = .failed error

/-! ## What holds all along -/

/-- The thread that interrupts the request holds its entry, and has seen it not cancelled. -/
structure Held (state : CancellationRun) (requestId : UInt64) (control : AttachmentControl)
    (history : List CancellationEntry) : Prop where
  entry : state.worker.aborts.lookup requestId = some control
  phase : ∃ final, state.worker.phase = .interrupting final
  spared : .spared control ∈ history
  later : ∀ other, .cancelled other control ∈ history →
    Precedes (.spared control) (.cancelled other control) history

structure Watched (state : CancellationRun) (history : List CancellationEntry) : Prop where
  reporting : Reporting state.together (observed history)
  listed : ∀ requestId control, state.worker.Lists requestId control →
    Admitted requestId control history
  cancelling : ∀ request ∈ state.cancelling, Admitted request.1 request.2 history
  aborting : ∀ control, state.aborting = some control →
    ∃ requestId, .cancelled requestId control ∈ history
  claimed : ∀ completion ∈ state.worker.places.completed,
    completion.Claimed state.worker.core.controls
  cancelled : ∀ requestId control, .cancelled requestId control ∈ history →
    Admitted requestId control history ∧ state.lifecycle control = .cancelled
  spared : ∀ control, .spared control ∈ history → control < state.worker.core.controls.next ∧
    (state.IsInterrupting control ∨ state.lifecycle control ≠ .active)
  paused : ∀ requestId control, state.pause = .interrupting requestId control →
    state.Held requestId control history
  /-- An error after a cancellation is that of an interruption which looked before. -/
  late : ∀ requestId control event,
    Precedes (.cancelled requestId control) (.report (.reported control event)) history →
      event.kind = .error → Caught control history
  /-- Such an interruption emits its event. -/
  caught : ∀ requestId control,
    Precedes (.spared control) (.cancelled requestId control) history →
      state.IsInterrupting control ∨ ∃ event, event.kind = .error ∧
        Precedes (.cancelled requestId control) (.report (.reported control event)) history

variable {state next : CancellationRun} {history entries : List CancellationEntry}
  {requestId : UInt64} {control : AttachmentControl}

theorem together_of_running (running : state.pause = .running) :
    state.together = state.worker := by
  simp [together, inHand, running]

theorem together_with (running : state.pause = .running) (worker : AttachmentWorker) :
    CancellationRun.together { state with worker } = worker :=
  together_of_running running

@[simp] theorem observed_nil : observed [] = [] := rfl

theorem observed_append (history entries : List CancellationEntry) :
    observed (history ++ entries) = observed history ++ observed entries :=
  List.filterMap_append

theorem mem_observed {report : AttachmentReport} (member : .report report ∈ history) :
    report ∈ observed history :=
  List.mem_filterMap.mpr ⟨_, member, rfl⟩

theorem Admitted.append (admitted : Admitted requestId control history)
    (entries : List CancellationEntry) : Admitted requestId control (history ++ entries) := by
  rcases admitted with ⟨attachment, member, facts⟩
  exact ⟨attachment, List.mem_append_left _ member, facts⟩

namespace Watched

theorem used_of_admitted (watched : Watched state history)
    (admitted : Admitted requestId control history) :
    control < state.worker.core.controls.next := by
  rcases admitted with ⟨attachment, member, -, rfl⟩
  exact watched.reporting.tracked.used _
    (List.mem_filterMap.mpr ⟨_, mem_observed member, rfl⟩)

theorem stays_cancelled (watched : Watched state history) (advance : Advance state next entries)
    (cancelled : .cancelled requestId control ∈ history) :
    next.lifecycle control = .cancelled := by
  rcases watched.cancelled requestId control cancelled with ⟨admitted, lifecycle⟩
  have settled : state.lifecycle control ≠ .active := by simp [lifecycle]
  rw [← lifecycle]
  exact advance.kept.lifecycle control (watched.used_of_admitted admitted) settled

theorem used_of_completed (watched : Watched state history) {completion : AttachmentCompletion}
    (member : completion ∈ state.worker.places.completed) :
    completion.permit.control < state.worker.core.controls.next := by
  have filed : state.together.places.Filed completion.requestId completion.permit :=
    watched.reporting.tracked.custody.completed completion member
  exact watched.reporting.tracked.used_of_opened (Tracked.opened_of_lookup filed.2)

theorem held (watched : Watched state history) (advance : Advance state next entries)
    (paused : next.pause = .interrupting requestId control) :
    next.Held requestId control (history ++ entries) := by
  rcases advance.paused requestId control paused with ⟨entry, phase, before | isNew⟩
  · have held := watched.paused requestId control before
    refine ⟨entry, phase, List.mem_append_left _ held.spared, fun other member => ?_⟩
    rcases List.mem_append.mp member with earlier | now
    · exact (held.later other earlier).append _
    · exact precedes_of_mem held.spared now
  · refine ⟨entry, phase, List.mem_append_right _ isNew, fun other member => ?_⟩
    rcases List.mem_append.mp member with earlier | now
    · exact absurd (watched.cancelled other control earlier).2 (advance.spared control isNew).1
    · rw [advance.alone other control now] at isNew
      simp at isNew

theorem late_advance (watched : Watched state history) (advance : Advance state next entries)
    {event : Event}
    (ordered : Precedes (.cancelled requestId control) (.report (.reported control event))
      (history ++ entries)) (isError : event.kind = .error) : Caught control (history ++ entries) := by
  rcases precedes_append.mp ordered with earlier | ⟨cancelled, reported⟩ | now
  · rcases watched.late requestId control event earlier isError with ⟨other, caught⟩
    exact ⟨other, caught.append _⟩
  · have stays := watched.stays_cancelled advance cancelled
    rcases advance.failed control event reported isError with
      terminal | ⟨other, paused⟩ | ⟨completion, member, rfl, error, result⟩
    · rw [stays] at terminal
      cases terminal
    · have held := watched.paused other control paused
      exact ⟨requestId, (held.later requestId cancelled).append _⟩
    · have claimed : state.lifecycle completion.permit.control = .terminal :=
        watched.claimed completion member error result
      rw [(watched.cancelled _ _ cancelled).2] at claimed
      cases claimed
  · have alone := advance.alone _ _ now.mem.1
    have reported := now.mem.2
    rw [alone] at reported
    simp at reported

theorem caught_advance (watched : Watched state history) (advance : Advance state next entries)
    (ordered : Precedes (.spared control) (.cancelled requestId control) (history ++ entries)) :
    next.IsInterrupting control ∨ ∃ event, event.kind = .error ∧
      Precedes (.cancelled requestId control) (.report (.reported control event))
        (history ++ entries) := by
  rcases precedes_append.mp ordered with earlier | ⟨spared, cancelled⟩ | now
  · rcases watched.caught requestId control earlier with interrupting | ⟨event, isError, after⟩
    · refine (advance.resumed control interrupting).imp_right ?_
      rintro ⟨-, event, isError, reported⟩
      exact ⟨event, isError, precedes_of_mem earlier.mem.2 reported⟩
    · exact Or.inr ⟨event, isError, after.append _⟩
  · have active := (advance.cancelled _ _ cancelled).2.1
    have interrupting := (watched.spared control spared).2.resolve_right (not_not_intro active)
    refine Or.inl ((advance.resumed control interrupting).resolve_right ?_)
    rintro ⟨-, event, -, reported⟩
    rw [advance.alone _ _ cancelled] at reported
    simp at reported
  · have alone := advance.alone _ _ now.mem.2
    have spared := now.mem.1
    rw [alone] at spared
    simp at spared

theorem advance (watched : Watched state history) (advance : Advance state next entries)
    (reporting : Reporting next.together (observed history ++ observed entries)) :
    Watched next (history ++ entries) where
  reporting := by rwa [observed_append]
  listed requestId control isListed := by
    rcases advance.listed requestId control isListed with earlier | ⟨attachment, member, facts⟩
    · exact (watched.listed requestId control earlier).append _
    · exact ⟨attachment, List.mem_append_right _ member, facts⟩
  cancelling request member := by
    rcases advance.cancelling request member with earlier | isListed
    · exact (watched.cancelling request earlier).append _
    · exact (watched.listed _ _ isListed).append _
  aborting control isAborting := by
    rcases advance.aborting control isAborting with earlier | ⟨requestId, member⟩
    · rcases watched.aborting control earlier with ⟨requestId, member⟩
      exact ⟨requestId, List.mem_append_left _ member⟩
    · exact ⟨requestId, List.mem_append_right _ member⟩
  claimed completion member := by
    rcases advance.completed completion member with earlier | claimed
    · intro error result
      have terminal := watched.claimed completion earlier error result
      have settled : state.lifecycle completion.permit.control ≠ .active := by
        simp [lifecycle, terminal]
      rw [← terminal]
      exact advance.kept.lifecycle _ (watched.used_of_completed earlier) settled
    · exact claimed
  cancelled requestId control member := by
    rcases List.mem_append.mp member with earlier | now
    · exact ⟨(watched.cancelled requestId control earlier).1.append _,
        watched.stays_cancelled advance earlier⟩
    · rcases advance.cancelled requestId control now with ⟨looked, -, cancelled⟩
      exact ⟨(watched.cancelling _ looked).append _, cancelled⟩
  spared control member := by
    rcases List.mem_append.mp member with earlier | now
    · rcases watched.spared control earlier with ⟨used, interrupting | settled⟩
      · exact ⟨Nat.lt_of_lt_of_le used advance.kept.next,
          (advance.resumed control interrupting).imp_right fun answered => answered.1⟩
      · refine ⟨Nat.lt_of_lt_of_le used advance.kept.next, Or.inr ?_⟩
        rwa [lifecycle, advance.kept.lifecycle control used settled]
    · rcases (advance.spared control now).2 with ⟨requestId, paused⟩
      refine ⟨?_, Or.inl ⟨requestId, paused⟩⟩
      have entry := (advance.paused requestId control paused).1
      exact reporting.tracked.used_of_opened (Tracked.opened_of_lookup entry)
  paused requestId control paused := watched.held advance paused
  late _ _ _ ordered isError := watched.late_advance advance ordered isError
  caught _ _ ordered := watched.caught_advance advance ordered

end Watched

/-! ## The steps -/

section Steps

variable {worker : AttachmentWorker} {reports : List AttachmentReport}

theorem Advance.of_effect (effect : state.worker.Effect next.worker reports)
    (cancelling : next.cancelling = state.cancelling) (aborting : next.aborting = state.aborting)
    (paused : ∀ requestId control, next.pause = .interrupting requestId control ↔
      state.pause = .interrupting requestId control)
    (held : ∀ requestId control, state.pause = .interrupting requestId control →
      next.worker.aborts.lookup requestId = some control ∧
        ∃ final, next.worker.phase = .interrupting final) :
    Advance state next (reports.map .report) where
  kept := effect.kept
  completed := effect.completed
  listed requestId control isListed := by
    refine (effect.listed requestId control isListed).imp_right ?_
    rintro ⟨attachment, member, facts⟩
    exact ⟨attachment, List.mem_map_of_mem member, facts⟩
  cancelling request member := Or.inl (cancelling ▸ member)
  aborting control isAborting := Or.inl (aborting ▸ isAborting)
  alone _ _ member := by simp at member
  cancelled _ _ member := by simp at member
  spared _ member := by simp at member
  paused requestId control isPaused := by
    have before := (paused requestId control).mp isPaused
    rcases held requestId control before with ⟨entry, phase⟩
    exact ⟨entry, phase, Or.inl before⟩
  resumed control interrupting := by
    rcases interrupting with ⟨requestId, isPaused⟩
    exact Or.inl ⟨requestId, (paused requestId control).mpr isPaused⟩
  failed control event member isError := by
    have reported : .reported control event ∈ reports := by simpa using member
    exact (effect.failed control event reported isError).imp_right Or.inr

theorem Advance.of_worker (effect : state.worker.Effect next.worker reports)
    (cancelling : next.cancelling = state.cancelling) (aborting : next.aborting = state.aborting)
    (before : ∀ requestId control, state.pause ≠ .interrupting requestId control)
    (after : ∀ requestId control, next.pause ≠ .interrupting requestId control) :
    Advance state next (reports.map .report) :=
  of_effect effect cancelling aborting
    (fun requestId control => iff_of_false (after requestId control) (before requestId control))
    fun requestId control paused => absurd paused (before requestId control)

theorem clientStep_deferred {label : AttachmentLabel} {reached : AttachmentWorker}
    (enabled : state.isEnabled label = true)
    (stepped : worker.clientStep label = some (reached, reports))
    (deferred : List SendAttachment) :
    ({ worker with deferred } : AttachmentWorker).clientStep label =
      some ({ reached with deferred }, reports) := by
  cases label with
  | queue =>
      rcases Machine.reached_of_some stepped with ⟨rfl, rfl⟩
      rfl
  | queueOther =>
      simp only [AttachmentWorker.clientStep] at stepped ⊢
      split at stepped <;> cases stepped <;> simp_all
  | cancel | cancelAll => cases enabled
  | _ => cases stepped

theorem clientStep_frame {label : AttachmentLabel} {reached : AttachmentWorker}
    (stepped : worker.clientStep label = some (reached, reports)) :
    reached.deferred = worker.deferred ∧ reached.aborts = worker.aborts ∧
      reached.phase = worker.phase := by
  cases label with
  | queueOther =>
      simp only [AttachmentWorker.clientStep] at stepped
      split at stepped <;> cases stepped <;> exact ⟨rfl, rfl, rfl⟩
  | queue | cancel | cancelAll =>
      rcases Machine.reached_of_some stepped with ⟨rfl, rfl⟩
      exact ⟨rfl, rfl, rfl⟩
  | _ => cases stepped

theorem running_of_isEnabled {label : AttachmentLabel} (enabled : state.isEnabled label = true)
    (notClient : worker.clientStep label = none) : state.pause = .running := by
  cases label with
  | queue => cases notClient
  | queueOther =>
      simp only [AttachmentWorker.clientStep] at notClient
      split at notClient <;> cases notClient
  | cancel | cancelAll | dispatch | interrupt => cases enabled
  | _ => exact eq_of_beq enabled

theorem observed_reports (reports : List AttachmentReport) :
    observed (reports.map .report) = reports :=
  filterMap_report reports

namespace Watched

theorem client {label : AttachmentLabel} {reached : AttachmentWorker}
    (watched : Watched state history) (enabled : state.isEnabled label = true)
    (effect : state.worker.Effect reached reports)
    (stepped : state.worker.clientStep label = some (reached, reports)) :
    Watched { state with worker := reached } (history ++ reports.map .report) := by
  rcases clientStep_frame stepped with ⟨deferred, aborts, phase⟩
  refine watched.advance (.of_effect effect rfl rfl (fun _ _ => Iff.rfl) ?_) ?_
  · intro requestId control paused
    have held := watched.paused requestId control paused
    exact ⟨aborts ▸ held.entry, phase ▸ held.phase⟩
  · rw [observed_reports]
    have together := clientStep_deferred enabled stepped (state.inHand ++ state.worker.deferred)
    have same : CancellationRun.together { state with worker := reached } =
        { reached with deferred := state.inHand ++ state.worker.deferred } := by
      rw [← deferred]
      rfl
    rw [same]
    exact watched.reporting.clientStep together

theorem whole {label : AttachmentLabel} (watched : Watched state history)
    (stepped : state.whole label = some (next, entries)) : Watched next (history ++ entries) := by
  unfold CancellationRun.whole at stepped
  split at stepped
  next enabled =>
    rcases Option.map_eq_some_iff.mp stepped with ⟨⟨reached, reports⟩, moved, same⟩
    cases same
    have effect := AttachmentWorker.Effect.step enabled moved
    cases byClient : state.worker.clientStep label with
    | some result =>
        have isStep : some result = some (reached, reports) := by
          simpa [AttachmentWorker.step, byClient] using moved
        rw [isStep] at byClient
        exact watched.client enabled effect byClient
    | none =>
        have running := running_of_isEnabled enabled byClient
        have reporting := watched.reporting
        rw [together_of_running running] at reporting
        refine watched.advance (.of_worker effect rfl rfl (by simp [running]) (by simp [running]))
          ?_
        rw [observed_reports, together_with running]
        exact reporting.step moved
  next => cases stepped

theorem advance_controls (watched : Watched state history) {controls : AttachmentControls}
    (kept : Kept state.worker.core.controls controls) :
    Advance state { state with worker := state.worker.withControls controls } [] := by
  have effect : state.worker.Effect (state.worker.withControls controls) [] :=
    { kept, completed := fun _ => Or.inl, failed := by simp, listed := fun _ _ => Or.inl }
  have advance : Advance state { state with worker := state.worker.withControls controls }
      ([].map .report) := by
    refine .of_effect effect rfl rfl (fun _ _ => Iff.rfl) fun requestId control paused => ?_
    have held := watched.paused requestId control paused
    exact ⟨held.entry, held.phase⟩
  exact advance

theorem lookUp {requests : List (UInt64 × AttachmentControl)} (watched : Watched state history)
    (listed : ∀ request ∈ requests, state.worker.Lists request.1 request.2)
    (stepped : state.lookUp requests = some (next, entries)) :
    Watched next (history ++ entries) := by
  unfold CancellationRun.lookUp at stepped
  split at stepped
  next =>
    cases stepped
    have stays := watched.advance_controls (Kept.refl _)
    refine watched.advance
      { stays with cancelling := fun request member => Or.inr (listed request member) } ?_
    rw [observed_nil, List.append_nil]
    exact watched.reporting
  next => cases stepped

theorem exchange (watched : Watched state history)
    (stepped : state.exchange = some (next, entries)) : Watched next (history ++ entries) := by
  unfold CancellationRun.exchange at stepped
  split at stepped
  next requestId control rest notAborting looked =>
    have advance := watched.advance_controls
      (Kept.exchangeCancelled state.worker.core.controls control)
    have reporting := watched.reporting.ease
      (Eased.exchangeCancelled state.worker.core.controls control)
    have fewer : ∀ request ∈ rest, request ∈ state.cancelling := by
      intro request member
      rw [looked]
      exact List.mem_cons_of_mem _ member
    dsimp only at stepped
    split at stepped
    next exchanged =>
      cases stepped
      have changes := AttachmentControls.lifecycle_of_exchanged exchanged
      refine watched.advance ?_ ?_
      · exact {
          kept := advance.kept
          completed := advance.completed
          listed := fun _ _ => Or.inl
          cancelling := fun request member => Or.inl (fewer request member)
          aborting := by
            rintro _ ⟨⟩
            exact Or.inr ⟨requestId, List.mem_singleton_self _⟩
          alone := by simp
          cancelled := by
            intro otherId other member
            cases List.mem_singleton.mp member
            exact ⟨looked ▸ List.mem_cons_self, changes⟩
          spared := by simp
          paused := by
            intro otherId other paused
            rcases advance.paused otherId other paused with ⟨entry, phase, before⟩
            exact ⟨entry, phase, Or.inl (before.resolve_right (by simp))⟩
          resumed := by
            intro other interrupting
            exact Or.inl ((advance.resumed other interrupting).resolve_right (by simp))
          failed := by simp }
      · rw [show observed [.cancelled requestId control] = [] from rfl, List.append_nil]
        exact reporting
    next =>
      cases stepped
      refine watched.advance
        { advance with
          cancelling := fun request member => Or.inl (fewer request member)
          aborting := fun control isAborting => by simp [notAborting] at isAborting } ?_
      rw [observed_nil, List.append_nil]
      exact reporting
  next => cases stepped

theorem abort (watched : Watched state history)
    (stepped : state.abort = some (next, entries)) : Watched next (history ++ entries) := by
  rcases Option.map_eq_some_iff.mp stepped with ⟨control, isAborting, same⟩
  cases same
  rcases watched.aborting control isAborting with ⟨requestId, member⟩
  have advance := watched.advance_controls (Kept.abort state.worker.core.controls control)
  refine watched.advance { advance with aborting := by simp } ?_
  rw [observed_nil, List.append_nil]
  exact watched.reporting.ease (Eased.abort (watched.cancelled requestId control member).2)

theorem clientStep {label : CancellationLabel} (watched : Watched state history)
    (stepped : state.clientStep label = some (next, entries)) :
    Watched next (history ++ entries) := by
  cases label with
  | cancel requestId =>
      refine watched.lookUp ?_ stepped
      intro request member
      rcases List.mem_map.mp member with ⟨entry, found, rfl⟩
      exact ⟨entry, Option.mem_toList.mp found, rfl⟩
  | cancelAll =>
      refine watched.lookUp ?_ stepped
      intro request member
      rcases List.mem_map.mp member with ⟨entry, found, rfl⟩
      exact ⟨entry.2, AList.mem_lookup_iff.mpr found, rfl⟩
  | exchange => exact watched.exchange stepped
  | abort => exact watched.abort stepped
  | _ => cases stepped

theorem workerQuiet (watched : Watched state history)
    (effect : state.worker.Effect next.worker [])
    (cancelling : next.cancelling = state.cancelling) (aborting : next.aborting = state.aborting)
    (before : ∀ requestId control, state.pause ≠ .interrupting requestId control)
    (after : ∀ requestId control, next.pause ≠ .interrupting requestId control)
    (reporting : Reporting next.together (observed history)) : Watched next (history ++ []) := by
  have advance : Advance state next ([].map .report) :=
    .of_worker effect cancelling aborting before after
  refine watched.advance advance ?_
  rw [observed_nil, List.append_nil]
  exact reporting

theorem dispatchAttachment {attachment : SendAttachment} {waiting : List SendAttachment}
    {groupsAuthoritative : Bool} (watched : Watched state history)
    (running : state.pause = .running)
    (taken : worker.Taken attachment waiting (observed history))
    (serving : worker.phase = .serving) (free : attachment.requestId ∉ worker.aborts)
    (same : worker.core.controls = state.worker.core.controls)
    (table : worker.core.attachments = state.worker.core.attachments)
    (completed : ∀ completion ∈ worker.places.completed,
      completion ∈ state.worker.places.completed) :
    Watched (state.dispatchAttachment worker attachment groupsAuthoritative) (history ++ []) := by
  have before : ∀ requestId control, state.pause ≠ .interrupting requestId control := by
    simp [running]
  have dispatched := taken.dispatchAttachment serving free groupsAuthoritative
  unfold AttachmentWorker.dispatchAttachment at dispatched
  unfold CancellationRun.dispatchAttachment
  split
  next cancelled =>
    rw [if_pos cancelled, List.append_nil] at dispatched
    have dropped := AttachmentWorker.Effect.dropPermit worker attachment.permit
    refine watched.workerQuiet (dropped.of_moved same table completed) rfl rfl before before ?_
    rw [together_with running]
    exact dispatched
  next alive =>
    rw [if_neg alive] at dispatched
    split
    next =>
      refine watched.workerQuiet (.moved same table completed) rfl rfl before (by simp) ?_
      exact taken.putBack
    next available =>
      rw [if_neg available, List.append_nil] at dispatched
      refine watched.workerQuiet (.moved same table completed) rfl rfl before before ?_
      rw [together_with running]
      exact dispatched

theorem dispatch {groupsAuthoritative : Bool} (watched : Watched state history)
    (running : state.pause = .running) (serving : state.worker.phase = .serving)
    (stepped : state.dispatch groupsAuthoritative = some (next, entries)) :
    Watched next (history ++ entries) := by
  have reporting := watched.reporting
  rw [together_of_running running] at reporting
  unfold CancellationRun.dispatch at stepped
  split at stepped
  next attachment rest deferred =>
    cases stepped
    have taken := reporting.taken_deferred deferred
    exact watched.dispatchAttachment running taken serving
      (reporting.free_of_serving serving taken.split) rfl rfl fun _ => id
  next =>
    split at stepped
    next => cases stepped
    next rest pending =>
      cases stepped
      refine watched.workerQuiet (.moved rfl rfl fun _ => id) rfl rfl (by simp [running])
        (by simp [running]) ?_
      rw [together_with running]
      exact reporting.skip pending
    next attachment rest pending =>
      cases stepped
      have taken := reporting.taken_received pending
      exact watched.dispatchAttachment running taken serving
        (reporting.free_of_serving serving taken.split) rfl rfl fun _ => id

theorem reject {attachment : SendAttachment} (watched : Watched state history)
    (paused : state.pause = .rejecting attachment) :
    Watched (state.reject attachment).1 (history ++ (state.reject attachment).2) := by
  have effect := AttachmentWorker.Effect.refuse state.worker attachment groupsUnavailable
  refine watched.advance (.of_worker effect rfl rfl (by simp [paused])
    (by simp [CancellationRun.reject])) ?_
  have reporting := watched.reporting
  have deferred : state.together.deferred = attachment :: state.worker.deferred := by
    simp [together, inHand, paused]
  have shown : observed (state.reject attachment).2 =
      (state.worker.refuse attachment groupsUnavailable).2 := observed_reports _
  rw [shown]
  exact (reporting.taken_deferred deferred).refuse groupsUnavailable

theorem interrupt {final : Bool} (watched : Watched state history)
    (running : state.pause = .running) (interrupting : state.worker.phase = .interrupting final)
    (stepped : state.interrupt requestId = some (next, entries)) :
    Watched next (history ++ entries) := by
  have reporting := watched.reporting
  rw [together_of_running running] at reporting
  unfold CancellationRun.interrupt at stepped
  split at stepped
  next => cases stepped
  next control found =>
    split at stepped
    next cancelled =>
      cases stepped
      refine watched.workerQuiet (.moved rfl rfl fun _ => id) rfl rfl (by simp [running])
        (by simp [running]) ?_
      rw [together_with running]
      exact (reporting.interruptEntry interrupting found).1 (of_decide_eq_true cancelled)
    next notCancelled =>
      cases stepped
      refine watched.advance ?_ ?_
      · exact {
          kept := Kept.refl _
          completed := fun _ => Or.inl
          listed := fun _ _ => Or.inl
          cancelling := fun _ => Or.inl
          aborting := fun _ => Or.inl
          alone := by simp
          cancelled := by simp
          spared := by
            intro other isSpared
            cases List.mem_singleton.mp isSpared
            exact ⟨fun cancelled => notCancelled (decide_eq_true cancelled), requestId, rfl⟩
          paused := by
            rintro _ _ ⟨⟩
            exact ⟨found, ⟨final, interrupting⟩, Or.inr (List.mem_singleton_self _)⟩
          resumed := by
            rintro other ⟨otherId, paused⟩
            rw [running] at paused
            cases paused
          failed := by simp }
      · rw [show observed [.spared control] = [] from rfl, List.append_nil]
        exact reporting

theorem claim (watched : Watched state history)
    (paused : state.pause = .interrupting requestId control) :
    Watched (state.claim requestId control).1 (history ++ (state.claim requestId control).2) := by
  have held := watched.paused requestId control paused
  rcases held.phase with ⟨final, interrupting⟩
  have reporting := watched.reporting
  refine watched.advance ?_ ?_
  · exact {
      kept := Kept.claimTerminal _ _
      completed := fun _ => Or.inl
      listed := fun _ _ => Or.inl
      cancelling := fun _ => Or.inl
      aborting := fun _ => Or.inl
      alone := by simp [CancellationRun.claim]
      cancelled := by simp [CancellationRun.claim]
      spared := by simp [CancellationRun.claim]
      paused := by
        rintro _ _ ⟨⟩
      resumed := by
        rintro other ⟨otherId, otherPaused⟩
        rw [paused] at otherPaused
        cases otherPaused
        exact Or.inr ⟨AttachmentControls.settled_claimTerminal _ _, _, rfl,
          List.mem_singleton_self _⟩
      failed := by
        intro other event member _
        have same : .reported other event = AttachmentWorker.requestErrorReport requestId control
            AttachmentWorker.interruptedMessage := by
          simpa [CancellationRun.claim] using member
        cases same
        exact Or.inr (Or.inl ⟨requestId, paused⟩) }
  · have noneInHand : state.together = state.worker := by simp [together, inHand, paused]
    rw [noneInHand] at reporting
    exact (reporting.interruptEntry interrupting held.entry).2

theorem workerStep {label : CancellationLabel} (watched : Watched state history)
    (stepped : state.workerStep label = some (next, entries)) :
    Watched next (history ++ entries) := by
  unfold CancellationRun.workerStep at stepped
  split at stepped
  next running serving => exact watched.dispatch running serving stepped
  next running interrupting => exact watched.interrupt running interrupting stepped
  next paused =>
    rcases Machine.reached_of_some stepped with ⟨rfl, rfl⟩
    exact watched.reject paused
  next paused =>
    rcases Machine.reached_of_some stepped with ⟨rfl, rfl⟩
    exact watched.claim paused
  next => cases stepped

theorem step {label : CancellationLabel} (watched : Watched state history)
    (stepped : state.step label = some (next, entries)) : Watched next (history ++ entries) := by
  cases label with
  | whole => exact watched.whole stepped
  | cancel | cancelAll | exchange | abort =>
      simp only [CancellationRun.step] at stepped
      exact watched.clientStep stepped
  | dispatch | reject | interrupt | claim => exact watched.workerStep stepped

end Watched

end Steps

/-! ## The law -/

variable {maximumBytes : UInt64} {maximumAttachments : Nat}

theorem watched_initial : Watched (machine maximumBytes maximumAttachments).initial [] where
  reporting := reporting_initial maximumBytes maximumAttachments
  listed requestId control := by
    rintro ⟨entry, found, -⟩
    cases found
  cancelling := by simp [machine]
  aborting := by simp [machine]
  claimed := by
    simp [machine, AttachmentWorker.machine, AttachmentWorker.places, WorkerPhase.collected]
  cancelled := by simp
  spared := by simp
  paused := by simp [machine]
  late := by simp [Precedes]
  caught := by simp [Precedes]

namespace Watched

theorem unreported (watched : Watched state history) {event : Event}
    (reported : .report (.reported control event) ∈ history) : ¬state.IsInterrupting control := by
  rintro ⟨requestId, paused⟩
  have isOpen : control ∈ state.together.places.opened :=
    Tracked.opened_of_lookup (watched.paused requestId control paused).entry
  refine watched.reporting.tracked.ledger.unreported control isOpen ?_
  exact List.mem_filterMap.mpr ⟨_, mem_observed reported, rfl⟩

theorem control_of_requestId (watched : Watched state history) {other : AttachmentControl}
    {event : Event} (cancelled : .cancelled requestId control ∈ history)
    (reported : .report (.reported other event) ∈ history) (named : event.requestId = requestId)
    (once : (admissionsOf requestId (observed history)).length = 1) : other = control := by
  rcases List.length_eq_one_iff.mp once with ⟨only, isOnly⟩
  have eq_only : ∀ attachment, .admitted attachment ∈ observed history →
      attachment.requestId = requestId → attachment = only := by
    intro attachment member sameId
    have listed : attachment ∈ admissionsOf requestId (observed history) :=
      List.mem_filter.mpr ⟨List.mem_filterMap.mpr ⟨_, member, rfl⟩, decide_eq_true sameId⟩
    rw [isOnly] at listed
    exact List.mem_singleton.mp listed
  rcases watched.cancelled requestId control cancelled with ⟨⟨one, oneMember, oneId, rfl⟩, -⟩
  obtain ⟨⟨another, anotherMember, rfl, anotherId⟩, -⟩ :=
    watched.reporting.tracked.evidence.reports other event (mem_observed reported)
  rw [eq_only another anotherMember (anotherId.trans named),
    eq_only one (mem_observed oneMember) oneId]

theorem silenced_iff (watched : Watched state history) :
    Silenced history ↔ ∀ control, Caught control history → state.IsInterrupting control := by
  constructor
  · rintro silenced control ⟨requestId, ordered⟩
    rcases watched.caught requestId control ordered with interrupting | ⟨event, isError, late⟩
    · exact interrupting
    · exact absurd isError (silenced.request requestId control event late)
  · intro uncaught
    have request : ∀ requestId control event,
        Precedes (.cancelled requestId control) (.report (.reported control event)) history →
          event.kind ≠ .error := by
      intro requestId control event ordered isError
      have caught := watched.late requestId control event ordered isError
      exact watched.unreported ordered.mem.2 (uncaught control caught)
    refine ⟨request, fun requestId control other event ordered named once => ?_⟩
    have same := watched.control_of_requestId ordered.mem.1 ordered.mem.2 named once
    rw [same] at ordered
    exact request requestId control event ordered

end Watched

theorem watched_of_run {labels : List CancellationLabel}
    (runs : (machine maximumBytes maximumAttachments).run labels = some (state, history)) :
    Watched state history :=
  (machine maximumBytes maximumAttachments).run_invariant watched_initial
    (fun _ _ _ _ _ watched stepped => watched.step stepped) runs

/-- What is reported once in whole steps is reported once when the threads come in between. -/
theorem reportLaw_of_interleaving {labels : List CancellationLabel}
    (runs : (machine maximumBytes maximumAttachments).run labels = some (state, history)) :
    ReportLaw state.together (observed history) :=
  (watched_of_run runs).reporting.law

/-- A cancelled request gets no error event, exactly as long as no cancellation has come between
the look of an interruption and its claim. Until the claim the event is only due. -/
theorem silenced_iff_of_run {labels : List CancellationLabel}
    (runs : (machine maximumBytes maximumAttachments).run labels = some (state, history)) :
    Silenced history ↔ ∀ control, Caught control history → state.IsInterrupting control :=
  (watched_of_run runs).silenced_iff

/-- The upload of an attachment fails while it is being cancelled. -/
def cancelledWhileUploading : List CancellationLabel :=
  [.whole (.queue 1 false sampleAttachment), .dispatch true, .cancel 1, .exchange,
    .whole (.upload { requestId := 1, permit := { requestId := 1, control := 0 } }
      (.failed "connection lost")), .abort,
    .whole (.join (some { requestId := 1, result := .cancelled
                          permit := { requestId := 1, control := 0 } }) false)]

theorem silenced_of_cancelledWhileUploading :
    ∃ state history, (machine maxAdmittedOutgoingAttachmentBytes
        maxAdmittedOutgoingAttachments).run cancelledWhileUploading = some (state, history) ∧
      .cancelled 1 0 ∈ history ∧ Silenced history := by
  have reached : ((machine maxAdmittedOutgoingAttachmentBytes
      maxAdmittedOutgoingAttachments).run cancelledWhileUploading).any (fun reached =>
        decide (.cancelled 1 0 ∈ reached.2) && !reached.2.any CancellationEntry.isSpared) =
          true := by
    decide +kernel
  rcases (Option.any_eq_true _ _).mp reached with ⟨⟨state, history⟩, runs, facts⟩
  rw [Bool.and_eq_true, decide_eq_true_eq, Bool.not_eq_true', List.any_eq_false] at facts
  refine ⟨state, history, runs, facts.1, (silenced_iff_of_run runs).mpr ?_⟩
  rintro control ⟨requestId, ordered⟩
  exact absurd rfl (facts.2 _ ordered.mem.1)

theorem reportLaw_of_cancelledWhileUploading :
    ∃ state history, (machine maxAdmittedOutgoingAttachmentBytes
        maxAdmittedOutgoingAttachments).run cancelledWhileUploading = some (state, history) ∧
      ReportLaw state.together (observed history) := by
  have reached : ((machine maxAdmittedOutgoingAttachmentBytes
      maxAdmittedOutgoingAttachments).run cancelledWhileUploading).isSome := by decide +kernel
  rcases Option.isSome_iff_exists.mp reached with ⟨⟨state, history⟩, runs⟩
  exact ⟨state, history, runs, reportLaw_of_interleaving runs⟩

/-- An attachment is interrupted after a cleanup that took too long. -/
def cancelledWhileInterrupted : List CancellationLabel :=
  [.whole (.queue 1 false sampleAttachment), .dispatch true, .whole (.cleanup false),
    .whole .timeout, .interrupt 1, .cancel 1, .exchange, .abort, .claim]

/-- The cancellation comes after the interruption has looked, and the error after it. -/
theorem cancelled_not_silenced :
    ∃ state history, (machine maxAdmittedOutgoingAttachmentBytes
        maxAdmittedOutgoingAttachments).run cancelledWhileInterrupted = some (state, history) ∧
      ¬Silenced history := by
  have reached : ((machine maxAdmittedOutgoingAttachmentBytes
      maxAdmittedOutgoingAttachments).run cancelledWhileInterrupted).any (fun reached =>
        decide (reached.2.drop 1 = [.spared 0, .cancelled 1 0,
          .report (AttachmentWorker.requestErrorReport 1 0
            AttachmentWorker.interruptedMessage)])) = true := by
    decide +kernel
  rcases (Option.any_eq_true _ _).mp reached with ⟨⟨state, history⟩, runs, facts⟩
  refine ⟨state, history, runs, fun silenced => ?_⟩
  have ordered : Precedes (.cancelled 1 0) (.report (AttachmentWorker.requestErrorReport 1 0
      AttachmentWorker.interruptedMessage)) (history.drop 1) := by
    rw [of_decide_eq_true facts]
    exact List.sublist_cons_self _ _
  exact silenced.request 1 0 _ (ordered.trans (List.drop_sublist _ _)) rfl

end CancellationRun

end SignalPurple
