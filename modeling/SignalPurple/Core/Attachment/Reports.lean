import SignalPurple.Core.Attachment.Custody
import SignalPurple.Foundation.Tickets

/-! # One report for each attachment

A control is a ticket: it is issued with the permit, is open while its request waits or is
in the map of running attachments, and is closed by the one report about it. Only a
cancelled request is closed without a report.
-/

namespace SignalPurple

def issuedControls (history : List AttachmentReport) : List AttachmentControl :=
  history.filterMap fun
    | .admitted attachment => some attachment.permit.control
    | _ => none

def reportedControls (history : List AttachmentReport) : List AttachmentControl :=
  history.filterMap fun
    | .reported control _ => some control
    | _ => none

def Places.opened (places : Places) : List AttachmentControl :=
  places.waiting.map (·.permit.control) ++ places.aborts.entries.map (·.2)

abbrev AttachmentControls.lifecycle (controls : AttachmentControls)
    (control : AttachmentControl) : AttachmentLifecycle :=
  (controls.state control).lifecycle

/-! ## Life cycles -/

/-- Nobody has claimed the end of a request before its task returns, and a result is
`Cancelled` only if the request was. -/
structure Lives (places : Places) (controls : AttachmentControls) : Prop where
  sound : ∀ control, (controls.state control).cancellation = true →
    controls.lifecycle control = .cancelled
  waiting : ∀ attachment ∈ places.waiting,
    controls.lifecycle attachment.permit.control ≠ .terminal
  running : ∀ task ∈ places.running, controls.lifecycle task.permit.control ≠ .terminal
  cancelled : ∀ completion ∈ places.completed, completion.result = .cancelled →
    controls.lifecycle completion.permit.control = .cancelled

namespace Lives

variable {places next : Places} {controls : AttachmentControls}

theorem mono (lives : Lives places controls)
    (waiting : ∀ attachment ∈ next.waiting, attachment ∈ places.waiting)
    (running : ∀ task ∈ next.running, task ∈ places.running)
    (completed : ∀ completion ∈ next.completed, completion ∈ places.completed) :
    Lives next controls where
  sound := lives.sound
  waiting attachment member := lives.waiting attachment (waiting attachment member)
  running task member := lives.running task (running task member)
  cancelled completion member := lives.cancelled completion (completed completion member)

end Lives

/-- How the controls in use may change by themselves: some become cancelled. -/
structure Eased (controls later : AttachmentControls) : Prop where
  next : controls.next ≤ later.next
  lifecycle : ∀ control < controls.next, later.lifecycle control = controls.lifecycle control ∨
    controls.lifecycle control = .active ∧ later.lifecycle control = .cancelled
  sound : (∀ control, (controls.state control).cancellation = true →
      controls.lifecycle control = .cancelled) →
    ∀ control, (later.state control).cancellation = true →
      later.lifecycle control = .cancelled

namespace Eased

variable {controls middle later : AttachmentControls} {control : AttachmentControl}

theorem refl (controls : AttachmentControls) : Eased controls controls :=
  ⟨Nat.le_refl _, fun _ _ => .inl rfl, id⟩

theorem trans (first : Eased controls middle) (second : Eased middle later) :
    Eased controls later where
  next := Nat.le_trans first.next second.next
  lifecycle control used := by
    have usedLater : control < middle.next := Nat.lt_of_lt_of_le used first.next
    rcases first.lifecycle control used with same | ⟨active, cancelled⟩
    · rw [← same]
      exact second.lifecycle control usedLater
    · rcases second.lifecycle control usedLater with same | ⟨impossible, _⟩
      · exact .inr ⟨active, same.trans cancelled⟩
      · rw [cancelled] at impossible
        cases impossible
  sound kept := second.sound (first.sound kept)

theorem new (controls : AttachmentControls) : Eased controls controls.new.2 where
  next := Nat.le_succ _
  lifecycle control used := by
    left
    simp only [AttachmentControls.lifecycle, AttachmentControls.state_new used]
  sound kept control := by
    simp only [AttachmentControls.new, AttachmentControls.set, AttachmentControls.lifecycle,
      Function.update_apply]
    split
    · simp
    · exact kept control

theorem cancel (controls : AttachmentControls) (control : AttachmentControl) :
    Eased controls (controls.cancel control).2 := by
  unfold AttachmentControls.cancel
  split
  next active =>
    refine ⟨Nat.le_refl _, ?_, ?_⟩
    · intro other _
      simp only [AttachmentControls.set, AttachmentControls.lifecycle, Function.update_apply]
      split
      next same =>
        rw [same]
        exact .inr ⟨active, rfl⟩
      next => exact .inl rfl
    · intro kept other
      simp only [AttachmentControls.set, AttachmentControls.lifecycle, Function.update_apply]
      split
      · simp
      · exact kept other
  next => exact refl controls

theorem cancelRequest (admission : AttachmentAdmission) (controls : AttachmentControls)
    (requestId : UInt64) : Eased controls (admission.cancel controls requestId).2 := by
  unfold AttachmentAdmission.cancel
  split
  · exact refl controls
  · exact cancel controls _

theorem cancelAll (admission : AttachmentAdmission) (controls : AttachmentControls) :
    Eased controls (admission.cancelAll controls) := by
  unfold AttachmentAdmission.cancelAll
  induction admission.state.requests.entries.map (·.2.control) generalizing controls with
  | nil => exact refl controls
  | cons control rest induction =>
      rw [List.foldl_cons]
      exact (cancel controls control).trans (induction _)

end Eased

/-! ## What the history tells -/

/-- A report is about an admitted request, carries its id, and says that the attachment was
sent only if the upload said so. -/
def Accountable (history : List AttachmentReport) (control : AttachmentControl)
    (event : Event) : Prop :=
  (∃ attachment, .admitted attachment ∈ history ∧ attachment.permit.control = control ∧
      attachment.requestId = event.requestId) ∧
    (event.kind = .error ∨
      event.kind = .attachmentSent ∧ .uploaded control .sent ∈ history)

structure Evidence (places : Places) (history : List AttachmentReport) : Prop where
  sent : ∀ completion ∈ places.completed, completion.result = .sent →
    .uploaded completion.permit.control .sent ∈ history
  waiting : ∀ attachment ∈ places.waiting, .admitted attachment ∈ history
  aborts : ∀ requestId control, places.aborts.lookup requestId = some control →
    ∃ attachment, .admitted attachment ∈ history ∧ attachment.permit.control = control ∧
      attachment.requestId = requestId
  reports : ∀ control event, .reported control event ∈ history →
    Accountable history control event

namespace Accountable

variable {history : List AttachmentReport} {control : AttachmentControl} {event : Event}

theorem append (accountable : Accountable history control event)
    (entries : List AttachmentReport) : Accountable (history ++ entries) control event := by
  obtain ⟨⟨attachment, admitted, named⟩, kind⟩ := accountable
  refine ⟨⟨attachment, List.mem_append_left _ admitted, named⟩, ?_⟩
  rcases kind with failed | ⟨sent, uploaded⟩
  · exact .inl failed
  · exact .inr ⟨sent, List.mem_append_left _ uploaded⟩

end Accountable

namespace Evidence

variable {places next : Places} {history : List AttachmentReport}

theorem mono (evidence : Evidence places history)
    (waiting : ∀ attachment ∈ next.waiting, attachment ∈ places.waiting)
    (completed : ∀ completion ∈ next.completed, completion ∈ places.completed)
    (aborts : ∀ requestId control, next.aborts.lookup requestId = some control →
      places.aborts.lookup requestId = some control) : Evidence next history where
  sent completion member := evidence.sent completion (completed completion member)
  waiting attachment member := evidence.waiting attachment (waiting attachment member)
  aborts requestId control found := evidence.aborts requestId control (aborts _ _ found)
  reports := evidence.reports

theorem append (evidence : Evidence places history) {entries : List AttachmentReport}
    (reports : ∀ control event, .reported control event ∈ entries →
      Accountable history control event) : Evidence places (history ++ entries) where
  sent completion member result :=
    List.mem_append_left _ (evidence.sent completion member result)
  waiting attachment member := List.mem_append_left _ (evidence.waiting attachment member)
  aborts requestId control found := by
    obtain ⟨attachment, admitted, named⟩ := evidence.aborts requestId control found
    exact ⟨attachment, List.mem_append_left _ admitted, named⟩
  reports control event member := by
    rcases List.mem_append.mp member with earlier | new
    · exact (evidence.reports control event earlier).append entries
    · exact (reports control event new).append entries

end Evidence

/-! ## The invariant and the moves that keep it -/

structure Tracked (places : Places) (controls : AttachmentControls)
    (history : List AttachmentReport) : Prop where
  custody : Custody places
  lives : Lives places controls
  evidence : Evidence places history
  ledger : Balanced places.opened (issuedControls history) (reportedControls history)
    fun control => controls.lifecycle control = .cancelled
  used : ∀ control ∈ issuedControls history, control < controls.next

namespace Tracked

variable {places : Places} {controls later : AttachmentControls}
  {history : List AttachmentReport} {control : AttachmentControl}

theorem opened_of_waiting {attachment : SendAttachment} (member : attachment ∈ places.waiting) :
    attachment.permit.control ∈ places.opened :=
  List.mem_append_left _ (List.mem_map.mpr ⟨attachment, member, rfl⟩)

theorem opened_of_lookup {requestId : UInt64}
    (found : places.aborts.lookup requestId = some control) : control ∈ places.opened :=
  List.mem_append_right _ (List.mem_map.mpr ⟨_, AList.mem_lookup_iff.mp found, rfl⟩)

theorem used_of_opened (tracked : Tracked places controls history)
    (isOpen : control ∈ places.opened) : control < controls.next :=
  tracked.used control (tracked.ledger.openedIssued control isOpen)

theorem ease (tracked : Tracked places controls history) (eased : Eased controls later) :
    Tracked places later history := by
  have live : ∀ control ∈ places.opened, controls.lifecycle control ≠ .terminal →
      later.lifecycle control ≠ .terminal := by
    intro control isOpen live
    rcases eased.lifecycle control (tracked.used_of_opened isOpen) with same | ⟨_, cancelled⟩
    · rw [same]
      exact live
    · simp [cancelled]
  have stays : ∀ control, control < controls.next → controls.lifecycle control = .cancelled →
      later.lifecycle control = .cancelled := by
    intro control used cancelled
    rcases eased.lifecycle control used with same | ⟨active, _⟩
    · exact same.trans cancelled
    · rw [cancelled] at active
      cases active
  exact {
    custody := tracked.custody
    lives := {
      sound := eased.sound tracked.lives.sound
      waiting := fun attachment member =>
        live _ (opened_of_waiting member) (tracked.lives.waiting attachment member)
      running := fun task member =>
        live _ (opened_of_lookup (tracked.custody.running task member).2)
          (tracked.lives.running task member)
      cancelled := fun completion member result =>
        stays _ (tracked.used_of_opened
          (opened_of_lookup (tracked.custody.completed completion member).2))
          (tracked.lives.cancelled completion member result) }
    evidence := tracked.evidence
    ledger := tracked.ledger.weaken fun control issued => stays control (tracked.used _ issued)
    used := fun control issued => Nat.lt_of_lt_of_le (tracked.used control issued) eased.next }

theorem lifecycle_claimTerminal_of_cancelled
    (cancelled : controls.lifecycle control = .cancelled) (other : AttachmentControl) :
    (controls.claimTerminal other).2.lifecycle control = .cancelled := by
  by_cases same : control = other
  · rw [← same]
    simp [AttachmentControls.claimTerminal, AttachmentControls.lifecycle, cancelled]
  · rw [AttachmentControls.lifecycle, AttachmentControls.state_claimTerminal_of_ne same]
    exact cancelled

theorem claim (tracked : Tracked places controls history)
    (notWaiting : ∀ attachment ∈ places.waiting, attachment.permit.control ≠ control)
    (notRunning : ∀ task ∈ places.running, task.permit.control ≠ control) :
    Tracked places (controls.claimTerminal control).2 history where
  custody := tracked.custody
  lives := {
    sound := by
      intro other aborted
      by_cases same : other = control
      · rw [same] at aborted ⊢
        apply lifecycle_claimTerminal_of_cancelled
        apply tracked.lives.sound
        simp only [AttachmentControls.claimTerminal] at aborted
        split at aborted
        · simpa [AttachmentControls.set] using aborted
        · exact aborted
      · rw [AttachmentControls.lifecycle] at *
        rw [AttachmentControls.state_claimTerminal_of_ne same] at aborted ⊢
        exact tracked.lives.sound other aborted
    waiting := by
      intro attachment member
      rw [AttachmentControls.lifecycle,
        AttachmentControls.state_claimTerminal_of_ne (notWaiting attachment member)]
      exact tracked.lives.waiting attachment member
    running := by
      intro task member
      rw [AttachmentControls.lifecycle,
        AttachmentControls.state_claimTerminal_of_ne (notRunning task member)]
      exact tracked.lives.running task member
    cancelled := by
      intro completion member result
      exact lifecycle_claimTerminal_of_cancelled
        (tracked.lives.cancelled completion member result) control }
  evidence := tracked.evidence
  ledger := tracked.ledger.weaken fun _ _ cancelled =>
    lifecycle_claimTerminal_of_cancelled cancelled control
  used := by
    rw [AttachmentControls.next_claimTerminal]
    exact tracked.used

variable {next : Places}

theorem move (tracked : Tracked places controls history) (custody : Custody next)
    (lives : Lives next controls) (evidence : Evidence next history)
    (moved : places.opened.Perm next.opened) : Tracked next controls history where
  custody := custody
  lives := lives
  evidence := evidence
  ledger := tracked.ledger.reorder moved
  used := tracked.used

theorem forget (tracked : Tracked places controls history) (custody : Custody next)
    (lives : Lives next controls) (evidence : Evidence next history)
    (closed : places.opened.Perm (control :: next.opened))
    (cancelled : controls.lifecycle control = .cancelled) :
    Tracked next controls history where
  custody := custody
  lives := lives
  evidence := evidence
  ledger := (tracked.ledger.reorder closed).close cancelled
  used := tracked.used

theorem issuedControls_append (history entries : List AttachmentReport) :
    issuedControls (history ++ entries) = issuedControls history ++ issuedControls entries :=
  List.filterMap_append

theorem reportedControls_append (history entries : List AttachmentReport) :
    reportedControls (history ++ entries) =
      reportedControls history ++ reportedControls entries :=
  List.filterMap_append

theorem report (tracked : Tracked places controls history) (custody : Custody next)
    (lives : Lives next controls) (evidence : Evidence next history)
    (closed : places.opened.Perm (control :: next.opened)) {event : Event}
    (accountable : Accountable history control event) :
    Tracked next controls (history ++ [.reported control event]) where
  custody := custody
  lives := lives
  evidence := by
    apply evidence.append
    intro other reported member
    simp only [List.mem_singleton, AttachmentReport.reported.injEq] at member
    rw [member.1, member.2]
    exact accountable
  ledger := by
    rw [issuedControls_append, reportedControls_append]
    simpa [issuedControls, reportedControls] using (tracked.ledger.reorder closed).report
  used := by
    rw [issuedControls_append]
    simpa [issuedControls] using tracked.used

theorem reorder (tracked : Tracked places controls history) {waiting : List SendAttachment}
    {completed : List AttachmentCompletion} (waits : waiting.Perm places.waiting)
    (returns : completed.Perm places.completed) :
    Tracked { places with waiting, completed } controls history :=
  tracked.move (tracked.custody.reorder waits returns)
    (tracked.lives.mono (fun _ => waits.mem_iff.mp) (fun _ => id) fun _ => returns.mem_iff.mp)
    (tracked.evidence.mono (fun _ => waits.mem_iff.mp) (fun _ => returns.mem_iff.mp)
      fun _ _ => id)
    ((waits.symm.map _).append_right _)

theorem enter (tracked : Tracked places controls history) {attachment : SendAttachment}
    (named : attachment.permit.requestId = attachment.requestId)
    (fresh : ¬places.Listed attachment.requestId)
    (unused : attachment.permit.control = controls.next) :
    Tracked { places with
      waiting := attachment :: places.waiting
      Listed := fun requestId =>
        requestId = attachment.requestId ∨ places.Listed requestId }
      controls.new.2 (history ++ [.admitted attachment]) := by
  have eased := tracked.ease (Eased.new controls)
  have evidence : Evidence places (history ++ [.admitted attachment]) :=
    eased.evidence.append (by simp)
  exact {
    custody := tracked.custody.enter named fresh
    lives := {
      sound := eased.lives.sound
      waiting := by
        intro other member
        rcases List.mem_cons.mp member with rfl | earlier
        · simp [unused, AttachmentControls.lifecycle, AttachmentControls.new,
            AttachmentControls.set]
        · exact eased.lives.waiting other earlier
      running := eased.lives.running
      cancelled := eased.lives.cancelled }
    evidence := {
      sent := evidence.sent
      waiting := by
        intro other member
        rcases List.mem_cons.mp member with rfl | earlier
        · simp
        · exact evidence.waiting other earlier
      aborts := evidence.aborts
      reports := evidence.reports }
    ledger := by
      rw [issuedControls_append, reportedControls_append]
      have unissued : controls.next ∉ issuedControls history := fun issued =>
        Nat.lt_irrefl _ (tracked.used _ issued)
      simpa [issuedControls, reportedControls, Places.opened, unused] using
        eased.ledger.issue unissued
    used := by
      intro control issued
      rw [issuedControls_append, List.mem_append] at issued
      rcases issued with earlier | new
      · exact eased.used control earlier
      · simp only [issuedControls, List.filterMap_cons, List.filterMap_nil,
          List.mem_singleton] at new
        rw [new, unused]
        exact Nat.lt_succ_self _ }

section Waiting

variable {attachment : SendAttachment} {waiting : List SendAttachment}

theorem opened_waiting (split : places.waiting.Perm (attachment :: waiting)) :
    places.opened.Perm (attachment.permit.control ::
      Places.opened { places with waiting, Listed := places.Unlisted attachment.permit }) :=
  (split.map (·.permit.control)).append_right _

theorem mem_waiting (split : places.waiting.Perm (attachment :: waiting)) :
    ∀ other ∈ waiting, other ∈ places.waiting := fun _ member =>
  split.mem_iff.mpr (List.mem_cons_of_mem _ member)

theorem discard (tracked : Tracked places controls history)
    (split : places.waiting.Perm (attachment :: waiting))
    (cancelled : controls.lifecycle attachment.permit.control = .cancelled) :
    Tracked { places with waiting, Listed := places.Unlisted attachment.permit } controls
      history :=
  tracked.forget (tracked.custody.discard split)
    (tracked.lives.mono (mem_waiting split) (fun _ => id) fun _ => id)
    (tracked.evidence.mono (mem_waiting split) (fun _ => id) fun _ _ => id)
    (opened_waiting split) cancelled

theorem refuse (tracked : Tracked places controls history)
    (split : places.waiting.Perm (attachment :: waiting)) (message : String) :
    Tracked { places with waiting, Listed := places.Unlisted attachment.permit }
      (controls.claimTerminal attachment.permit.control).2
      (history ++ if (controls.claimTerminal attachment.permit.control).1 then
        [AttachmentWorker.requestErrorReport attachment.requestId attachment.permit.control
          message] else []) := by
  have member : attachment ∈ places.waiting := split.mem_iff.mpr List.mem_cons_self
  cases lifecycle : controls.lifecycle attachment.permit.control with
  | terminal => exact absurd lifecycle (tracked.lives.waiting attachment member)
  | cancelled =>
      have unclaimed : controls.claimTerminal attachment.permit.control = (false, controls) := by
        simp only [AttachmentControls.claimTerminal, lifecycle, reduceCtorEq, if_false]
      rw [unclaimed]
      simpa using tracked.discard split lifecycle
  | active =>
      have claimed : (controls.claimTerminal attachment.permit.control).1 = true := by
        simp only [AttachmentControls.claimTerminal, lifecycle, if_true]
      rw [claimed, if_pos rfl]
      have accountable : Accountable history attachment.permit.control
          (Event.requestError attachment.requestId message) :=
        ⟨⟨attachment, tracked.evidence.waiting attachment member, rfl, rfl⟩, .inl rfl⟩
      have reported := tracked.report (tracked.custody.discard split)
        (tracked.lives.mono (mem_waiting split) (fun _ => id) fun _ => id)
        (tracked.evidence.mono (mem_waiting split) (fun _ => id) fun _ _ => id)
        (opened_waiting split) accountable
      have closed := (List.nodup_cons.mp
        ((opened_waiting split).nodup_iff.mp tracked.ledger.openedOnce)).1
      refine reported.claim ?_ ?_
      · intro other waits same
        exact closed (same ▸ opened_of_waiting waits)
      · intro task runs same
        have filed := (tracked.custody.running task runs).2
        exact closed (same ▸ opened_of_lookup filed)

theorem start (tracked : Tracked places controls history)
    (split : places.waiting.Perm (attachment :: waiting))
    (free : attachment.requestId ∉ places.aborts) :
    Tracked { places with
      waiting
      running := places.running ++
        [{ requestId := attachment.requestId, permit := attachment.permit }]
      aborts := places.aborts.insert attachment.requestId attachment.permit.control }
      controls history := by
  have member : attachment ∈ places.waiting := split.mem_iff.mpr List.mem_cons_self
  apply tracked.move (tracked.custody.start split free)
  · exact {
      sound := tracked.lives.sound
      waiting := fun other waits =>
        tracked.lives.waiting other (mem_waiting split other waits)
      running := by
        intro task runs
        rcases List.mem_append.mp runs with earlier | new
        · exact tracked.lives.running task earlier
        · rw [List.mem_singleton.mp new]
          exact tracked.lives.waiting attachment member
      cancelled := tracked.lives.cancelled }
  · exact {
      sent := tracked.evidence.sent
      waiting := fun other waits =>
        tracked.evidence.waiting other (mem_waiting split other waits)
      aborts := by
        intro requestId control found
        by_cases same : requestId = attachment.requestId
        · rw [same, AList.lookup_insert] at found
          cases found
          exact ⟨attachment, tracked.evidence.waiting attachment member, rfl, same.symm⟩
        · rw [AList.lookup_insert_ne same] at found
          exact tracked.evidence.aborts requestId control found
      reports := tracked.evidence.reports }
  · simp only [Places.opened, AList.insert_of_notMem free, List.map_cons]
    exact ((split.map (·.permit.control)).append_right _).trans List.perm_middle.symm

end Waiting

theorem observe (tracked : Tracked places controls history) (outcome : UploadOutcome)
    (control : AttachmentControl) :
    Tracked places controls (history ++ [.uploaded control outcome]) where
  custody := tracked.custody
  lives := tracked.lives
  evidence := tracked.evidence.append (by simp)
  ledger := by
    rw [issuedControls_append, reportedControls_append]
    simpa [issuedControls, reportedControls] using tracked.ledger
  used := by
    rw [issuedControls_append]
    simpa [issuedControls] using tracked.used

section Running

variable {task : AttachmentTask} {running : List AttachmentTask}

theorem taskReturned (tracked : Tracked places controls history)
    (split : places.running.Perm (task :: running)) {result : AttachmentTaskResult}
    (cancelled : result = .cancelled → controls.lifecycle task.permit.control = .cancelled)
    (sent : result = .sent → .uploaded task.permit.control .sent ∈ history) :
    Tracked { places with
      running
      completed := { requestId := task.requestId, result, permit := task.permit } ::
        places.completed } controls history := by
  apply tracked.move (tracked.custody.taskReturned split result)
  · exact {
      sound := tracked.lives.sound
      waiting := tracked.lives.waiting
      running := fun other runs =>
        tracked.lives.running other (split.mem_iff.mpr (List.mem_cons_of_mem _ runs))
      cancelled := by
        intro completion member
        rcases List.mem_cons.mp member with rfl | earlier
        · exact cancelled
        · exact tracked.lives.cancelled completion earlier }
  · exact {
      sent := by
        intro completion member
        rcases List.mem_cons.mp member with rfl | earlier
        · exact sent
        · exact tracked.evidence.sent completion earlier
      waiting := tracked.evidence.waiting
      aborts := tracked.evidence.aborts
      reports := tracked.evidence.reports }
  · exact List.Perm.refl _

theorem control_ne_of_running (tracked : Tracked places controls history)
    (split : places.running.Perm (task :: running)) {other : AttachmentTask}
    (member : other ∈ running) : other.permit.control ≠ task.permit.control := by
  intro same
  have mine := tracked.custody.running task (split.mem_iff.mpr List.mem_cons_self)
  have theirs := tracked.custody.running other
    (split.mem_iff.mpr (List.mem_cons_of_mem _ member))
  -- Equal controls would be one entry of the map, and so one permit.
  have values := (List.nodup_append.mp tracked.ledger.openedOnce).2.1
  have entry : (⟨other.requestId, other.permit.control⟩ : Sigma fun _ : UInt64 => Nat) =
      ⟨task.requestId, task.permit.control⟩ :=
    List.inj_on_of_nodup_map values (AList.mem_lookup_iff.mp theirs.2)
      (AList.mem_lookup_iff.mp mine.2) same
  have holders : places.holders.Perm (task.permit ::
      Places.holders { places with running }) := by
    rw [List.perm_iff_count]
    intro permit
    have counted := (split.map (·.permit)).count_eq permit
    simp only [Places.holders, List.count_append, List.map_cons, List.count_cons] at counted ⊢
    omega
  have held : other.permit ∈ Places.holders { places with running } := by
    simp only [Places.holders, List.mem_append]
    exact .inl (.inl (.inr (List.mem_map_of_mem member)))
  apply tracked.custody.apart_of_perm holders held
  rw [mine.1, theirs.1]
  exact congrArg Sigma.fst entry

theorem control_ne_of_waiting (tracked : Tracked places controls history) {requestId : UInt64}
    (found : places.aborts.lookup requestId = some control) {attachment : SendAttachment}
    (member : attachment ∈ places.waiting) : attachment.permit.control ≠ control :=
  (List.nodup_append.mp tracked.ledger.openedOnce).2.2 _
    (List.mem_map.mpr ⟨attachment, member, rfl⟩) _
    (List.mem_map.mpr ⟨_, AList.mem_lookup_iff.mp found, rfl⟩)

theorem upload (tracked : Tracked places controls history)
    (split : places.running.Perm (task :: running)) (outcome : UploadOutcome) :
    Tracked { places with
      running
      completed := { requestId := task.requestId
                     result := if (controls.claimTerminal task.permit.control).1 ||
                         outcome == .sent then AttachmentWorker.uploadResult outcome
                       else .cancelled
                     permit := task.permit } :: places.completed }
      (controls.claimTerminal task.permit.control).2
      (history ++ [.uploaded task.permit.control outcome]) := by
  have member : task ∈ places.running := split.mem_iff.mpr List.mem_cons_self
  have live := tracked.lives.running task member
  have filed := (tracked.custody.running task member).2
  have unclaimed : (controls.claimTerminal task.permit.control).1 = false →
      controls.lifecycle task.permit.control = .cancelled := by
    intro failed
    cases lifecycle : controls.lifecycle task.permit.control with
    | active => simp [AttachmentControls.claimTerminal, lifecycle] at failed
    | cancelled => rfl
    | terminal => exact absurd lifecycle live
  refine ((tracked.observe outcome task.permit.control).taskReturned split ?_ ?_).claim ?_ ?_
  · intro cancelled
    split at cancelled
    next => cases outcome <;> cases cancelled
    next refused =>
      simp only [Bool.or_eq_true, not_or, Bool.not_eq_true] at refused
      exact unclaimed refused.1
  · intro sent
    split at sent
    · cases outcome with
      | sent => simp
      | failed error => cases sent
      | panicked => cases sent
    · cases sent
  · intro attachment waits
    exact tracked.control_ne_of_waiting filed waits
  · intro other runs
    exact tracked.control_ne_of_running split runs

end Running

section Completed

variable {completion : AttachmentCompletion} {completed : List AttachmentCompletion}

theorem mem_completed (split : places.completed.Perm (completion :: completed)) :
    ∀ other ∈ completed, other ∈ places.completed := fun _ member =>
  split.mem_iff.mpr (List.mem_cons_of_mem _ member)

theorem lose (tracked : Tracked places controls history)
    (split : places.completed.Perm (completion :: completed)) :
    Tracked { places with completed, Listed := places.Unlisted completion.permit } controls
      history :=
  tracked.move (tracked.custody.lose split)
    (tracked.lives.mono (fun _ => id) (fun _ => id) (mem_completed split))
    (tracked.evidence.mono (fun _ => id) (mem_completed split) fun _ _ => id)
    (List.Perm.refl _)

theorem opened_erase {requestId : UInt64}
    (found : places.aborts.lookup requestId = some control) :
    places.opened.Perm (control ::
      Places.opened { places with aborts := places.aborts.erase requestId }) := by
  have member : requestId ∈ places.aborts.entries.keys := by
    apply AList.lookup_isSome.mp
    rw [found]
    rfl
  obtain ⟨value, before, after, _, split, erased⟩ := List.exists_of_kerase member
  have listed : value ∈ places.aborts.lookup requestId := by
    rw [AList.mem_lookup_iff, split]
    simp
  rw [found] at listed
  cases listed
  have kept : (places.aborts.erase requestId).entries = before ++ after := erased
  simp only [Places.opened]
  rw [kept, split]
  simp only [List.map_append, List.map_cons]
  rw [← List.append_assoc, ← List.append_assoc]
  exact List.perm_middle

theorem lookup_of_erase {requestId other : UInt64}
    (found : (places.aborts.erase requestId).lookup other = some control) :
    places.aborts.lookup other = some control := by
  by_cases same : other = requestId
  · rw [same, AList.lookup_erase] at found
    cases found
  · rwa [AList.lookup_erase_ne same] at found

theorem finish (tracked : Tracked places controls history)
    (split : places.completed.Perm (completion :: completed)) :
    Tracked (places.finished completion completed) controls
      (history ++ AttachmentWorker.completionReports completion) := by
  have member : completion ∈ places.completed := split.mem_iff.mpr List.mem_cons_self
  have filed := (tracked.custody.completed completion member).2
  have admitted := tracked.evidence.aborts _ _ filed
  have lives : Lives (places.finished completion completed) controls :=
    tracked.lives.mono (fun _ => id) (fun _ => id) (mem_completed split)
  have evidence : Evidence (places.finished completion completed) history :=
    tracked.evidence.mono (fun _ => id) (mem_completed split) fun _ _ => lookup_of_erase
  cases result : completion.result with
  | sent =>
      simp only [AttachmentWorker.completionReports, result]
      exact tracked.report (tracked.custody.finish split) lives evidence (opened_erase filed)
        ⟨admitted, .inr ⟨rfl, tracked.evidence.sent completion member result⟩⟩
  | failed error =>
      simp only [AttachmentWorker.completionReports, result]
      exact tracked.report (tracked.custody.finish split) lives evidence (opened_erase filed)
        ⟨admitted, .inl rfl⟩
  | cancelled =>
      simp only [AttachmentWorker.completionReports, result, List.append_nil]
      exact tracked.forget (tracked.custody.finish split) lives evidence (opened_erase filed)
        (tracked.lives.cancelled completion member result)

end Completed

theorem abort (tracked : Tracked places controls history) :
    Tracked { places with
      running := []
      aborted := places.aborted ++ places.running.map (·.permit) } controls history :=
  tracked.move tracked.custody.abort
    (tracked.lives.mono (fun _ => id) (by simp) fun _ => id)
    (tracked.evidence.mono (fun _ => id) (fun _ => id) fun _ _ => id) (List.Perm.refl _)

theorem reap (tracked : Tracked places controls history) {permit : AttachmentPermit}
    {aborted : List AttachmentPermit} (split : places.aborted.Perm (permit :: aborted)) :
    Tracked { places with aborted, Listed := places.Unlisted permit } controls history :=
  tracked.move (tracked.custody.reap split)
    (tracked.lives.mono (fun _ => id) (fun _ => id) fun _ => id)
    (tracked.evidence.mono (fun _ => id) (fun _ => id) fun _ _ => id) (List.Perm.refl _)

section Interrupted

variable {requestId : UInt64}

theorem interrupt (tracked : Tracked places controls history) (idle : places.running = [])
    (drained : places.completed = [])
    (found : places.aborts.lookup requestId = some control) :
    (controls.lifecycle control = .cancelled →
      Tracked { places with aborts := places.aborts.erase requestId } controls history) ∧
    Tracked { places with aborts := places.aborts.erase requestId }
      (controls.claimTerminal control).2
      (history ++ [AttachmentWorker.requestErrorReport requestId control
        AttachmentWorker.interruptedMessage]) := by
  have custody := tracked.custody.interrupt idle drained requestId
  have lives : Lives { places with aborts := places.aborts.erase requestId } controls :=
    tracked.lives.mono (fun _ => id) (fun _ => id) fun _ => id
  have evidence : Evidence { places with aborts := places.aborts.erase requestId } history :=
    tracked.evidence.mono (fun _ => id) (fun _ => id) fun _ _ => lookup_of_erase
  constructor
  · exact tracked.forget custody lives evidence (opened_erase found)
  · have accountable : Accountable history control
        (Event.requestError requestId AttachmentWorker.interruptedMessage) :=
      ⟨tracked.evidence.aborts _ _ found, .inl rfl⟩
    refine (tracked.report custody lives evidence (opened_erase found) accountable).claim ?_ ?_
    · intro attachment waits
      exact tracked.control_ne_of_waiting found waits
    · simp [idle]

end Interrupted

end Tracked

end SignalPurple
