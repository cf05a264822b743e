import SignalPurple.Core.Attachment.Cancellation

/-! # What a step of one access does

A failed result is claimed by its task before it is reported, and a refusal is claimed before
it is emitted. A life cycle that was claimed or cancelled stays so.
-/

namespace SignalPurple

/-- A life cycle that is no longer active stays as it is. -/
structure Kept (controls later : AttachmentControls) : Prop where
  next : controls.next ≤ later.next
  lifecycle : ∀ control < controls.next, controls.lifecycle control ≠ .active →
    later.lifecycle control = controls.lifecycle control

namespace Kept

variable {controls : AttachmentControls}

theorem refl (controls : AttachmentControls) : Kept controls controls :=
  ⟨Nat.le_refl _, fun _ _ _ => rfl⟩

theorem new (controls : AttachmentControls) : Kept controls controls.new.2 where
  next := Nat.le_succ _
  lifecycle control used _ := by
    simp only [AttachmentControls.lifecycle, AttachmentControls.state_new used]

theorem set (control : AttachmentControl) (state : AttachmentControlState)
    (kept : controls.lifecycle control ≠ .active →
      state.lifecycle = controls.lifecycle control) :
    Kept controls (controls.set control state) where
  next := Nat.le_refl _
  lifecycle other _ settled := by
    by_cases same : other = control
    · rw [same] at settled ⊢
      simpa [AttachmentControls.lifecycle, AttachmentControls.set] using kept settled
    · simp [AttachmentControls.lifecycle, AttachmentControls.state_set_of_ne same]

theorem claimTerminal (controls : AttachmentControls) (control : AttachmentControl) :
    Kept controls (controls.claimTerminal control).2 := by
  unfold AttachmentControls.claimTerminal
  split
  next active => exact set control _ fun settled => absurd active settled
  next => exact refl controls

theorem exchangeCancelled (controls : AttachmentControls) (control : AttachmentControl) :
    Kept controls (controls.exchangeCancelled control).2 := by
  unfold AttachmentControls.exchangeCancelled
  split
  next active => exact set control _ fun settled => absurd active settled
  next => exact refl controls

theorem abort (controls : AttachmentControls) (control : AttachmentControl) :
    Kept controls (controls.abort control) :=
  set control _ fun _ => rfl

end Kept

theorem AttachmentControls.lifecycle_of_claimed {controls : AttachmentControls}
    {control : AttachmentControl} (claimed : (controls.claimTerminal control).1 = true) :
    (controls.claimTerminal control).2.lifecycle control = .terminal := by
  unfold claimTerminal at claimed ⊢
  split at claimed
  next active => simp [active, lifecycle, set]
  next => cases claimed

theorem AttachmentControls.lifecycle_of_exchanged {controls : AttachmentControls}
    {control : AttachmentControl} (exchanged : (controls.exchangeCancelled control).1 = true) :
    controls.lifecycle control = .active ∧
      (controls.exchangeCancelled control).2.lifecycle control = .cancelled := by
  unfold exchangeCancelled at exchanged ⊢
  split at exchanged
  next active => simp [active, lifecycle, set]
  next => cases exchanged

theorem AttachmentControls.settled_claimTerminal (controls : AttachmentControls)
    (control : AttachmentControl) :
    (controls.claimTerminal control).2.lifecycle control ≠ .active := by
  unfold claimTerminal
  split
  next active => simp [lifecycle, set]
  next settled => exact settled

namespace Eased

variable {controls : AttachmentControls} {control : AttachmentControl}

theorem exchangeCancelled (controls : AttachmentControls) (control : AttachmentControl) :
    Eased controls (controls.exchangeCancelled control).2 := by
  unfold AttachmentControls.exchangeCancelled
  split
  next active =>
    refine ⟨Nat.le_refl _, fun other _ => ?_, fun sound other aborted => ?_⟩
    · by_cases same : other = control
      · simp [same, active, AttachmentControls.lifecycle, AttachmentControls.set]
      · simp [AttachmentControls.lifecycle, AttachmentControls.state_set_of_ne same]
    · by_cases same : other = control
      · simp [same, AttachmentControls.lifecycle, AttachmentControls.set]
      · rw [AttachmentControls.state_set_of_ne same] at aborted
        simpa [AttachmentControls.lifecycle, AttachmentControls.state_set_of_ne same] using
          sound other aborted
  next => exact refl controls

theorem abort (cancelled : controls.lifecycle control = .cancelled) :
    Eased controls (controls.abort control) := by
  have same : ∀ other, (controls.abort control).lifecycle other = controls.lifecycle other := by
    intro other
    by_cases isIt : other = control
    · simp [isIt, AttachmentControls.lifecycle, AttachmentControls.abort, AttachmentControls.set]
    · simp [AttachmentControls.lifecycle, AttachmentControls.abort,
        AttachmentControls.state_set_of_ne isIt]
  refine ⟨Nat.le_refl _, fun other _ => Or.inl (same other), fun sound other aborted => ?_⟩
  rw [same]
  by_cases isIt : other = control
  · rw [isIt]
    exact cancelled
  · rw [AttachmentControls.abort, AttachmentControls.state_set_of_ne isIt] at aborted
    exact sound other aborted

end Eased

/-- The task of a failed upload has claimed its end. -/
def AttachmentCompletion.Claimed (completion : AttachmentCompletion)
    (controls : AttachmentControls) : Prop :=
  ∀ error, completion.result = .failed error →
    controls.lifecycle completion.permit.control = .terminal

namespace AttachmentWorker

def Lists (worker : AttachmentWorker) (requestId : UInt64) (control : AttachmentControl) : Prop :=
  ∃ entry, worker.core.attachments.state.requests.lookup requestId = some entry ∧
    entry.control = control

/-- An error event needs a claim, in the step or by a task before. -/
structure Effect (worker next : AttachmentWorker) (entries : List AttachmentReport) : Prop where
  kept : Kept worker.core.controls next.core.controls
  completed : ∀ completion ∈ next.places.completed,
    completion ∈ worker.places.completed ∨ completion.Claimed next.core.controls
  failed : ∀ control event, .reported control event ∈ entries → event.kind = .error →
    next.core.controls.lifecycle control = .terminal ∨
      ∃ completion ∈ worker.places.completed, completion.permit.control = control ∧
        ∃ error, completion.result = .failed error
  listed : ∀ requestId control, next.Lists requestId control →
    worker.Lists requestId control ∨
      ∃ attachment, .admitted attachment ∈ entries ∧ attachment.requestId = requestId ∧
        attachment.permit.control = control

variable {worker next : AttachmentWorker} {entries : List AttachmentReport}

theorem lists_dropPermit {permit : AttachmentPermit} {requestId : UInt64}
    {control : AttachmentControl} (listed : (worker.dropPermit permit).Lists requestId control) :
    worker.Lists requestId control := by
  rcases listed with ⟨entry, found, same⟩
  refine ⟨entry, ?_, same⟩
  unfold dropPermit AttachmentAdmission.release at found
  dsimp only at found
  split at found
  next => exact found
  next released _ =>
    by_cases isIt : requestId = permit.requestId
    · rw [isIt, AList.lookup_erase] at found
      cases found
    · rwa [AList.lookup_erase_ne isIt] at found

theorem lists_dropPermits {requestId : UInt64} {control : AttachmentControl}
    (permits : List AttachmentPermit) (worker : AttachmentWorker)
    (listed : (worker.dropPermits permits).Lists requestId control) :
    worker.Lists requestId control := by
  induction permits generalizing worker with
  | nil => exact listed
  | cons permit rest induction => exact lists_dropPermit (induction _ listed)

namespace Effect

theorem quiet (controls : next.core.controls = worker.core.controls)
    (completed : ∀ completion ∈ next.places.completed, completion ∈ worker.places.completed)
    (listed : ∀ requestId control, next.Lists requestId control →
      worker.Lists requestId control) : Effect worker next [] where
  kept := controls ▸ Kept.refl _
  completed completion member := Or.inl (completed completion member)
  failed _ _ member := by cases member
  listed requestId control isListed := Or.inl (listed requestId control isListed)

theorem moved (core : next.core.controls = worker.core.controls)
    (table : next.core.attachments = worker.core.attachments)
    (completed : ∀ completion ∈ next.places.completed, completion ∈ worker.places.completed) :
    Effect worker next [] := by
  refine quiet core completed fun requestId control listed => ?_
  unfold Lists at listed ⊢
  rwa [table] at listed

theorem dropPermit (worker : AttachmentWorker) (permit : AttachmentPermit) :
    Effect worker (worker.dropPermit permit) [] :=
  quiet rfl (fun _ => id) fun _ _ => lists_dropPermit

theorem of_moved {middle : AttachmentWorker} (effect : Effect middle next entries)
    (controls : middle.core.controls = worker.core.controls)
    (table : middle.core.attachments = worker.core.attachments)
    (completed : ∀ completion ∈ middle.places.completed, completion ∈ worker.places.completed) :
    Effect worker next entries where
  kept := controls ▸ effect.kept
  completed completion member := (effect.completed completion member).imp_left (completed completion)
  failed control event member isError := by
    refine (effect.failed control event member isError).imp_right ?_
    rintro ⟨completion, isCompleted, facts⟩
    exact ⟨completion, completed completion isCompleted, facts⟩
  listed requestId control isListed := by
    refine (effect.listed requestId control isListed).imp_left fun earlier => ?_
    unfold Lists at earlier ⊢
    rwa [table] at earlier

theorem then_moved {middle : AttachmentWorker} (effect : Effect worker middle entries)
    (controls : next.core.controls = middle.core.controls)
    (table : next.core.attachments = middle.core.attachments)
    (completed : ∀ completion ∈ next.places.completed, completion ∈ middle.places.completed) :
    Effect worker next entries where
  kept := controls ▸ effect.kept
  completed completion member := by
    rw [controls]
    exact effect.completed completion (completed completion member)
  failed := by
    rw [controls]
    exact effect.failed
  listed requestId control isListed := by
    refine effect.listed requestId control ?_
    unfold Lists at isListed ⊢
    rwa [table] at isListed

theorem refuse (worker : AttachmentWorker) (attachment : SendAttachment) (message : String) :
    Effect worker (worker.refuse attachment message).1 (worker.refuse attachment message).2 where
  kept := Kept.claimTerminal _ _
  completed completion member := Or.inl member
  failed control event member _ := by
    left
    simp only [AttachmentWorker.refuse] at member ⊢
    split at member
    next claimed =>
      simp only [requestErrorReport, List.mem_singleton, AttachmentReport.reported.injEq] at member
      rw [member.1]
      exact AttachmentControls.lifecycle_of_claimed claimed
    next => cases member
  listed requestId control isListed := Or.inl (lists_dropPermit isListed)

theorem finishAttachmentCompletion (worker : AttachmentWorker)
    (completed : Option AttachmentCompletion) {before : AttachmentWorker}
    (controls : worker.core.controls = before.core.controls)
    (table : worker.core.attachments = before.core.attachments)
    (collected : ∀ completion ∈ completed.toList ++ worker.places.completed,
      completion ∈ before.places.completed) :
    Effect before (worker.finishAttachmentCompletion completed).1
      (worker.finishAttachmentCompletion completed).2 := by
  have remaining : ∀ completion ∈ worker.places.completed, completion ∈ before.places.completed :=
    fun completion member => collected completion (List.mem_append_right _ member)
  cases completed with
  | none => exact moved controls table remaining
  | some completion =>
      have dropped : Effect before (worker.finishAttachmentCompletion (some completion)).1 [] :=
        (dropPermit { worker with aborts := worker.aborts.erase completion.requestId }
          completion.permit).of_moved controls table remaining
      refine { dropped with failed := ?_, listed := ?_ }
      · intro control event member isError
        simp only [AttachmentWorker.finishAttachmentCompletion, completionReports] at member
        right
        split at member
        next =>
          simp only [List.mem_singleton, AttachmentReport.reported.injEq] at member
          rw [member.2] at isError
          cases isError
        next error result =>
          simp only [requestErrorReport, List.mem_singleton, AttachmentReport.reported.injEq]
            at member
          exact ⟨completion, collected completion (by simp), member.1.symm, error, result⟩
        next => cases member
      · intro requestId control isListed
        exact Or.inl ((dropped.listed requestId control isListed).resolve_right (by simp))

theorem attachmentTaskResult (worker : AttachmentWorker) (task : AttachmentTask)
    (outcome : UploadOutcome) :
    Effect worker (worker.attachmentTaskResult task outcome).1
      (worker.attachmentTaskResult task outcome).2 where
  kept := Kept.claimTerminal _ _
  completed completion member := by
    simp only [AttachmentWorker.attachmentTaskResult, taskReturned, places, withControls,
      List.mem_append, List.mem_singleton] at member
    rcases member with (earlier | rfl) | collected
    · exact Or.inl (List.mem_append_left _ earlier)
    · refine Or.inr fun error result => ?_
      dsimp only at result
      split at result
      next finished =>
        have claimed : (worker.core.controls.claimTerminal task.permit.control).1 = true := by
          cases outcome with
          | sent => cases result
          | failed _ | panicked => simpa using finished
        exact AttachmentControls.lifecycle_of_claimed claimed
      next => cases result
    · exact Or.inl (List.mem_append_right _ collected)
  failed control event member := by
    simp [AttachmentWorker.attachmentTaskResult] at member
  listed _ _ isListed := Or.inl isListed

theorem uploadAborted (worker : AttachmentWorker) (task : AttachmentTask) :
    Effect worker (worker.taskReturned task .cancelled) [] where
  kept := Kept.refl _
  completed completion member := by
    simp only [taskReturned, places, List.mem_append, List.mem_singleton] at member
    rcases member with (earlier | rfl) | collected
    · exact Or.inl (List.mem_append_left _ earlier)
    · exact Or.inr fun _ result => by cases result
    · exact Or.inl (List.mem_append_right _ collected)
  failed _ _ member := by cases member
  listed _ _ isListed := Or.inl isListed

theorem abandon (worker : AttachmentWorker) (final : Bool) :
    Effect worker (worker.abandon final) [] := by
  obtain ⟨attachments, same⟩ := worker.abortTasks.dropPermits_eq
    (worker.returned.map (·.permit) ++ worker.phase.collected.map (·.permit))
  refine quiet ?_ ?_ ?_
  · unfold AttachmentWorker.abandon
    rw [same]
    rfl
  · simp [AttachmentWorker.abandon, places, WorkerPhase.collected]
  · exact fun _ _ => lists_dropPermits _ worker.abortTasks

theorem queue (worker : AttachmentWorker) (requestId : UInt64) (group : Bool)
    (checked : CheckedAttachment) (stepped : worker.clientStep (.queue requestId group checked) =
      some (next, entries)) : Effect worker next entries := by
  rcases Machine.reached_of_some stepped with ⟨rfl, rfl⟩
  rcases worker.core.queueAttachment_cases requestId group checked with
    ⟨status, _, refused⟩ | ⟨admits, ⟨status, _, dropped⟩ | queued⟩
  · simp only [refused, List.drop_length, List.filterMap_nil, List.map_nil]
    exact moved rfl rfl fun _ => id
  · simp only [dropped, List.drop_length, List.filterMap_nil, List.map_nil]
    exact { kept := Kept.new _, completed := fun _ => Or.inl, failed := by simp,
            listed := fun _ _ => Or.inl }
  · simp only [queued, CommandChannel.send, List.drop_left, List.filterMap_cons,
      List.filterMap_nil, Command.attachment?, List.map_cons, List.map_nil]
    refine { kept := Kept.new _, completed := fun _ => Or.inl, failed := by simp, listed := ?_ }
    rintro other control ⟨entry, found, rfl⟩
    by_cases same : other = requestId
    · right
      rw [same] at found ⊢
      simp only [AttachmentAdmission.reserved, AList.lookup_insert, Option.some.injEq] at found
      exact ⟨_, List.mem_singleton_self _, rfl, by rw [← found]; rfl⟩
    · left
      simp only [AttachmentAdmission.reserved, AList.lookup_insert_ne same] at found
      exact ⟨entry, found, rfl⟩

theorem join {completed : Option AttachmentCompletion} {stopped : Bool}
    {before : AttachmentWorker} (stepped : worker.join completed stopped = some (next, entries))
    (controls : worker.core.controls = before.core.controls)
    (table : worker.core.attachments = before.core.attachments)
    (collected : ∀ completion ∈ completed.toList ++ worker.places.completed,
      completion ∈ before.places.completed) :
    Effect before next entries := by
  have remaining : ∀ completion ∈ worker.places.completed, completion ∈ before.places.completed :=
    fun completion member => collected completion (List.mem_append_right _ member)
  unfold AttachmentWorker.join at stepped
  split at stepped
  next serving =>
    split at stepped
    next =>
      cases stepped
      obtain ⟨attachments, same⟩ :=
        worker.dropPermits_eq (completed.map (·.permit)).toList
      have dropped : Effect worker (worker.dropPermits (completed.map (·.permit)).toList) [] := by
        refine quiet ?_ ?_ fun _ _ => lists_dropPermits _ worker
        · rw [same]
        · rw [same]
          exact fun _ => id
      refine (dropped.of_moved controls table remaining).then_moved rfl rfl ?_
      rw [same]
      simp [places, WorkerPhase.collected, serving]
    next =>
      rcases Machine.reached_of_some stepped with ⟨rfl, rfl⟩
      exact finishAttachmentCompletion worker completed controls table collected
  next final completions draining =>
    cases stepped
    refine moved controls table fun completion member => collected completion ?_
    simp only [places, draining, WorkerPhase.collected, List.filterMap_append, List.mem_append]
      at member ⊢
    rcases member with returned | earlier | joined
    · exact Or.inr (Or.inl returned)
    · exact Or.inr (Or.inr earlier)
    · exact Or.inl (by simpa [eq_comm] using joined)
  next => cases stepped

theorem joinTask {completed : Option AttachmentCompletion} {stopped : Bool}
    (stepped : worker.joinTask completed stopped = some (next, entries)) :
    Effect worker next entries := by
  cases completed with
  | none => exact join stepped rfl rfl (by simp)
  | some completion =>
      simp only [AttachmentWorker.joinTask] at stepped
      split at stepped
      next returned =>
        refine join stepped rfl rfl ?_
        intro other member
        rcases List.mem_append.mp member with isIt | remains
        · rw [Option.mem_toList] at isIt
          cases isIt
          exact List.mem_append_left _ returned
        · exact (List.mem_append.mp remains).elim
            (fun earlier => List.mem_append_left _ (List.mem_of_mem_erase earlier))
            (List.mem_append_right _)
      next => cases stepped

theorem defer (stepped : worker.defer = some (next, entries)) : Effect worker next entries := by
  unfold AttachmentWorker.defer at stepped
  split at stepped <;> cases stepped
  · exact moved rfl rfl fun _ => id
  · exact moved rfl rfl fun _ => id

theorem taskStep {label : AttachmentLabel}
    (stepped : worker.taskStep label = some (next, entries)) : Effect worker next entries := by
  cases label with
  | upload task outcome =>
      simp only [AttachmentWorker.taskStep] at stepped
      split at stepped
      next =>
        rcases Machine.reached_of_some stepped with ⟨rfl, rfl⟩
        exact attachmentTaskResult worker task outcome
      next => cases stepped
  | uploadAborted task =>
      simp only [AttachmentWorker.taskStep] at stepped
      split at stepped <;> cases stepped
      exact uploadAborted worker task
  | reap permit =>
      simp only [AttachmentWorker.taskStep] at stepped
      split at stepped <;> cases stepped
      exact (dropPermit { worker with aborted := worker.aborted.erase permit } permit).of_moved
        rfl rfl fun _ => id
  | _ => cases stepped

theorem rephase (worker : AttachmentWorker) {phase : WorkerPhase}
    (collected : ∀ completion ∈ phase.collected, completion ∈ worker.phase.collected) :
    Effect worker { worker with phase } [] :=
  moved rfl rfl fun completion member => List.mem_append.mpr
    ((List.mem_append.mp member).imp_right (collected completion))

theorem actorStep {label : AttachmentLabel}
    (notDispatch : ∀ groupsAuthoritative, label ≠ .dispatch groupsAuthoritative)
    (notInterrupt : ∀ requestId, label ≠ .interrupt requestId)
    (stepped : worker.actorStep label = some (next, entries)) : Effect worker next entries := by
  cases AttachmentWorker.actorTransition_of_actorStep stepped with
  | join joined => exact joinTask joined
  | defer serving deferred => exact defer deferred
  | dispatch => exact absurd rfl (notDispatch _)
  | failDeferred | cleanup | failed | interruptRemaining =>
      exact rephase worker (by simp [WorkerPhase.collected])
  | @failNext message attachment rest failing deferred =>
      exact (refuse { worker with deferred := rest } attachment _).of_moved rfl rfl fun _ => id
  | @abortTasks final waiting =>
      have collected : ∀ completion ∈ (WorkerPhase.draining final []).collected,
          completion ∈ worker.phase.collected := by simp [WorkerPhase.collected]
      exact (rephase worker collected).then_moved rfl rfl fun _ => id
  | drained draining => exact rephase worker (by simp [draining, WorkerPhase.collected])
  | timeout => exact abandon worker _
  | @finishNext final completed rest finishing =>
      refine finishAttachmentCompletion _ completed rfl rfl fun completion member => ?_
      simp only [places, finishing, WorkerPhase.collected, List.mem_append] at member ⊢
      rcases member with isIt | returned | later
      · rw [Option.mem_toList] at isIt
        cases isIt
        exact Or.inr List.mem_cons_self
      · exact Or.inl returned
      · refine Or.inr (List.mem_filterMap.mpr ?_)
        rcases List.mem_filterMap.mp later with ⟨other, member, same⟩
        exact ⟨other, List.mem_cons_of_mem _ member, same⟩
  | interrupt => exact absurd rfl (notInterrupt _)
  | @resume final => exact rephase worker (by cases final <;> simp [WorkerPhase.collected])

theorem step {label : AttachmentLabel} {state : CancellationRun}
    (enabled : state.isEnabled label = true)
    (stepped : worker.step label = some (next, entries)) : Effect worker next entries := by
  unfold AttachmentWorker.step at stepped
  split at stepped
  next reached client =>
    rw [stepped] at client
    cases label with
    | queue requestId group checked => exact queue worker requestId group checked client
    | queueOther =>
        simp only [AttachmentWorker.clientStep] at client
        split at client <;> cases client
        · exact moved rfl rfl fun _ => id
        · exact moved rfl rfl fun _ => id
    | cancel | cancelAll => cases enabled
    | _ => cases client
  next =>
    split at stepped
    next reached task =>
      rw [stepped] at task
      exact taskStep task
    next =>
      refine actorStep ?_ ?_ stepped
      · rintro _ rfl
        cases enabled
      · rintro _ rfl
        cases enabled

end Effect

end AttachmentWorker

end SignalPurple
