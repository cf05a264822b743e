import SignalPurple.Core.Acknowledgment.Inbox

/-! # Order and wake-ups of the acknowledgment inbox

What a run of the shared inbox guarantees to its consumer: ids come out in the order
of their first submission, and a ready id never waits for a wake-up that is not coming.
-/

namespace SignalPurple.AcknowledgmentInbox

def acceptedIds (history : List InboxEntry) : List DeliveryId :=
  history.filterMap fun
    | .accepted deliveryId => some deliveryId
    | _ => none

def handedIds (history : List InboxEntry) : List DeliveryId :=
  history.flatMap fun
    | .handed deliveryIds => deliveryIds
    | _ => []

@[simp] theorem acceptedIds_append (before after : List InboxEntry) :
    acceptedIds (before ++ after) = acceptedIds before ++ acceptedIds after :=
  List.filterMap_append

@[simp] theorem handedIds_append (before after : List InboxEntry) :
    handedIds (before ++ after) = handedIds before ++ handedIds after :=
  List.flatMap_append

/-! ## Wake-ups -/

/-- A ready id is announced, about to be announced, or about to be taken. -/
def Wakeful (inbox : AcknowledgmentInbox) : Prop :=
  inbox.state.ready ≠ [] →
    inbox.changed.Available ∨ 0 < inbox.unsentNotifications ∨ inbox.woken.Nonempty

theorem wakeful_update {inbox : AcknowledgmentInbox} (state : AcknowledgmentState) :
    Wakeful (inbox.update state true) :=
  fun _ => Or.inr (Or.inl (Nat.succ_pos _))

theorem Wakeful.of_ready {inbox next : AcknowledgmentInbox} (wakeful : Wakeful inbox)
    (noneAdded : inbox.state.ready = [] → next.state.ready = [])
    (sameNotify : next.changed = inbox.changed)
    (sameUnsent : next.unsentNotifications = inbox.unsentNotifications)
    (sameWoken : next.woken = inbox.woken) : Wakeful next := by
  intro nonempty
  rw [sameNotify, sameUnsent, sameWoken]
  exact wakeful fun isEmpty => nonempty (noneAdded isEmpty)

theorem wakeful_takeReady (inbox : AcknowledgmentInbox) (consumer maximum : Nat) :
    Wakeful (inbox.takeReady consumer maximum).1 := by
  intro nonempty
  have notifies : (inbox.state.takeReady maximum).notify = true := by
    show (!(inbox.takeReady consumer maximum).1.state.ready.isEmpty) = true
    simpa [List.isEmpty_iff] using nonempty
  refine Or.inr (Or.inl ?_)
  simp [takeReady, update, notifies]

theorem wakeful_activateRetries {inbox : AcknowledgmentInbox} :
    Wakeful (inbox.update inbox.state.activateRetries.1 inbox.state.activateRetries.2) := by
  intro nonempty
  have notifies : inbox.state.activateRetries.2 = true := by
    simpa [AcknowledgmentState.activateRetries, update, List.isEmpty_iff] using nonempty
  rw [notifies]
  exact Or.inr (Or.inl (Nat.succ_pos _))

theorem Wakeful.wait {inbox : AcknowledgmentInbox} (wakeful : Wakeful inbox)
    (consumer : Nat) : Wakeful (inbox.wait consumer) := by
  intro nonempty
  rcases wakeful nonempty with available | unsent | woken
  · rcases available.await consumer with served | kept
    · simp [AcknowledgmentInbox.wait, served]
    · exact Or.inl kept
  · exact Or.inr (Or.inl unsent)
  · refine Or.inr (Or.inr ?_)
    simp only [AcknowledgmentInbox.wait]
    split
    · exact Finset.insert_nonempty _ _
    · exact woken

theorem Wakeful.step {inbox next : AcknowledgmentInbox} {label : InboxLabel}
    {entries : List InboxEntry} (wakeful : Wakeful inbox)
    (stepped : inbox.step label = some (next, entries)) : Wakeful next := by
  cases transition_of_step stepped with
  | register => exact wakeful.of_ready id rfl rfl rfl
  | unregister =>
      refine wakeful.of_ready ?_ rfl rfl rfl
      intro isEmpty
      simp [unregister, AcknowledgmentState.unregister, isEmpty]
  | accepted => exact wakeful_update _
  | ignored => exact wakeful
  | takeReady => exact wakeful_takeReady inbox _ _
  | @deferRetry deliveryId member =>
      refine wakeful.of_ready ?_ rfl rfl rfl
      intro isEmpty
      simp only [deferRetry, AcknowledgmentState.deferRetry]
      split <;> exact isEmpty
  | activateRetries => exact wakeful_activateRetries
  | close => exact wakeful_update _
  | notifyOne => exact fun _ => Or.inl (Notify.available_notifyOne _)
  | wait => exact wakeful.wait _
  | resume => exact fun _ => Or.inr (Or.inr (Finset.insert_nonempty _ _))
  | cancelWait cancelled =>
      intro nonempty
      rcases wakeful nonempty with available | later
      · exact Or.inl (available.cancel cancelled)
      · exact Or.inr later

/-! ## Order -/

/-- Without a deferral the ids handed out and those still ready are, in this order,
among the accepted ones. -/
structure Ordered (inbox : AcknowledgmentInbox) (history : List InboxEntry) : Prop where
  acceptedDistinct : (acceptedIds history).Nodup
  acceptedKnown : ∀ id ∈ acceptedIds history,
    id ∈ inbox.state.accepted ∨ id ∈ inbox.retired
  inOrder : (∀ id, .deferred id ∉ history) →
    inbox.state.retry = [] ∧
      (handedIds history ++ inbox.state.ready).Sublist (acceptedIds history)
  closedStays : .closed ∈ history → inbox.state.isOpen = false

theorem Ordered.frame {inbox next : AcknowledgmentInbox} {history entries : List InboxEntry}
    (ordered : Ordered inbox history)
    (noAccepted : acceptedIds entries = []) (noHanded : handedIds entries = [])
    (known : ∀ id, id ∈ inbox.state.accepted ∨ id ∈ inbox.retired →
      id ∈ next.state.accepted ∨ id ∈ next.retired)
    (kept : (∀ id, .deferred id ∉ entries) → inbox.state.retry = [] →
      next.state.retry = [] ∧ next.state.ready.Sublist inbox.state.ready)
    (closedStays : .closed ∈ history ++ entries → next.state.isOpen = false) :
    Ordered next (history ++ entries) where
  acceptedDistinct := by simpa [noAccepted] using ordered.acceptedDistinct
  acceptedKnown := by
    intro id member
    rw [acceptedIds_append, noAccepted, List.append_nil] at member
    exact known id (ordered.acceptedKnown id member)
  inOrder := by
    intro noDeferral
    have before := ordered.inOrder fun id member => noDeferral id (List.mem_append_left _ member)
    have after := kept (fun id member => noDeferral id (List.mem_append_right _ member)) before.1
    refine ⟨after.1, ?_⟩
    rw [handedIds_append, acceptedIds_append, noHanded, noAccepted, List.append_nil,
      List.append_nil]
    exact ((List.Sublist.refl _).append after.2).trans before.2
  closedStays := closedStays

theorem Ordered.accept {inbox : AcknowledgmentInbox} {history : List InboxEntry}
    {deliveryId : DeliveryId} (ordered : Ordered inbox history)
    (consistent : Consistent inbox) (opened : inbox.state.isOpen = true)
    (accepts : inbox.state.accepts deliveryId = true) :
    Ordered (inbox.accept deliveryId)
      (history ++ [.accepted deliveryId, .submitted deliveryId true]) := by
  have sameAccepted : acceptedIds [.accepted deliveryId, .submitted deliveryId true] =
      [deliveryId] := rfl
  have noHanded : handedIds [.accepted deliveryId, .submitted deliveryId true] = [] := rfl
  simp only [AcknowledgmentState.accepts, Bool.and_eq_true, decide_eq_true_eq] at accepts
  have new : deliveryId ∉ acceptedIds history := by
    intro member
    rcases ordered.acceptedKnown deliveryId member with accepted | retired
    · exact accepts.2 accepted
    · exact consistent.retiredUnregistered deliveryId retired accepts.1
  refine ⟨?_, ?_, ?_, ?_⟩
  · rw [acceptedIds_append, sameAccepted, List.nodup_append]
    refine ⟨ordered.acceptedDistinct, List.nodup_singleton _, ?_⟩
    intro id member other single same
    rw [List.mem_singleton.mp single] at same
    exact new (same ▸ member)
  · intro id member
    rw [acceptedIds_append, sameAccepted, List.mem_append, List.mem_singleton] at member
    rcases member with earlier | rfl
    · rcases ordered.acceptedKnown id earlier with accepted | retired
      · exact Or.inl (Finset.mem_insert_of_mem accepted)
      · exact Or.inr retired
    · exact Or.inl (Finset.mem_insert_self _ _)
  · intro noDeferral
    have before := ordered.inOrder fun id member => noDeferral id (List.mem_append_left _ member)
    refine ⟨before.1, ?_⟩
    rw [handedIds_append, acceptedIds_append, noHanded, sameAccepted, List.append_nil]
    show (handedIds history ++ (inbox.state.ready ++ [deliveryId])).Sublist _
    rw [← List.append_assoc]
    exact before.2.append (List.Sublist.refl _)
  · intro closed
    have earlier : .closed ∈ history := by simpa using closed
    rw [ordered.closedStays earlier] at opened
    cases opened

theorem Ordered.takeReady {inbox : AcknowledgmentInbox} {history : List InboxEntry}
    (ordered : Ordered inbox history) (consumer maximum : Nat) :
    Ordered (inbox.takeReady consumer maximum).1
      (history ++ [.handed (inbox.state.takeReady maximum).deliveryIds]) := by
  have noAccepted : acceptedIds [.handed (inbox.state.takeReady maximum).deliveryIds] = [] :=
    rfl
  have handed : handedIds [.handed (inbox.state.takeReady maximum).deliveryIds] =
      (inbox.state.takeReady maximum).deliveryIds := List.append_nil _
  refine ⟨?_, ?_, ?_, ?_⟩
  · rw [acceptedIds_append, noAccepted, List.append_nil]
    exact ordered.acceptedDistinct
  · rw [acceptedIds_append, noAccepted, List.append_nil]
    exact ordered.acceptedKnown
  · intro noDeferral
    have before := ordered.inOrder fun id member => noDeferral id (List.mem_append_left _ member)
    refine ⟨before.1, ?_⟩
    -- The ids move from the head of `ready` to the end of what was handed out.
    have order := before.2
    rw [inbox.state.takeReady_splits maximum, ← List.append_assoc] at order
    rw [acceptedIds_append, noAccepted, List.append_nil, handedIds_append, handed]
    exact order
  · intro closed
    exact ordered.closedStays (by simpa using closed)

theorem Ordered.step {inbox next : AcknowledgmentInbox} {label : InboxLabel}
    {history entries : List InboxEntry} (ordered : Ordered inbox history)
    (consistent : Consistent inbox) (stepped : inbox.step label = some (next, entries)) :
    Ordered next (history ++ entries) := by
  have keep : inbox.state.retry = [] →
      inbox.state.retry = [] ∧ inbox.state.ready.Sublist inbox.state.ready :=
    fun none => ⟨none, List.Sublist.refl _⟩
  have stays : .closed ∈ history ++ [] → inbox.state.isOpen = false := by
    simpa using ordered.closedStays
  cases transition_of_step stepped with
  | register => exact ordered.frame rfl rfl (fun _ known => known) (fun _ => keep) stays
  | @unregister deliveryId =>
      refine ordered.frame rfl rfl ?_ ?_ stays
      · intro id known
        by_cases same : id = deliveryId
        · exact Or.inr (Finset.mem_insert.mpr (Or.inl same))
        · rcases known with accepted | retired
          · exact Or.inl (Finset.mem_erase.mpr ⟨same, accepted⟩)
          · exact Or.inr (Finset.mem_insert_of_mem retired)
      · intro _ none
        refine ⟨?_, List.filter_sublist⟩
        simp [unregister, AcknowledgmentState.unregister, none]
  | accepted opened accepts => exact ordered.accept consistent opened accepts
  | ignored =>
      refine ordered.frame rfl rfl (fun _ known => known) (fun _ => keep) ?_
      simpa using ordered.closedStays
  | takeReady => exact ordered.takeReady _ _
  | @deferRetry deliveryId member =>
      have sameSets : (inbox.state.deferRetry deliveryId).accepted = inbox.state.accepted ∧
          (inbox.state.deferRetry deliveryId).isOpen = inbox.state.isOpen := by
        unfold AcknowledgmentState.deferRetry
        split <;> exact ⟨rfl, rfl⟩
      refine ordered.frame rfl rfl ?_ ?_ ?_
      · intro id known
        simpa [deferRetry, sameSets.1] using known
      · intro noDeferral
        exact absurd (List.mem_singleton.mpr rfl) (noDeferral deliveryId)
      · intro closed
        rw [deferRetry, sameSets.2]
        exact ordered.closedStays (by simpa using closed)
  | activateRetries =>
      refine ordered.frame rfl rfl (fun _ known => known) ?_ stays
      intro _ none
      refine ⟨rfl, ?_⟩
      simp [update, AcknowledgmentState.activateRetries, none]
  | close =>
      refine ordered.frame rfl rfl (fun _ known => known) ?_ (fun _ => rfl)
      intro _ none
      refine ⟨rfl, ?_⟩
      simp [update, AcknowledgmentState.close, none]
  | notifyOne => exact ordered.frame rfl rfl (fun _ known => known) (fun _ => keep) stays
  | wait => exact ordered.frame rfl rfl (fun _ known => known) (fun _ => keep) stays
  | resume => exact ordered.frame rfl rfl (fun _ known => known) (fun _ => keep) stays
  | cancelWait => exact ordered.frame rfl rfl (fun _ known => known) (fun _ => keep) stays

/-- Ids taken by a consumer that has neither deferred nor unregistered them. -/
def held (inbox : AcknowledgmentInbox) : List DeliveryId :=
  inbox.taken.filter (· ∉ inbox.retired)

theorem Consistent.mem_held {inbox : AcknowledgmentInbox} {id : DeliveryId}
    (consistent : Consistent inbox) (accepted : id ∈ inbox.state.accepted) :
    id ∈ inbox.held ↔ id ∈ inbox.taken := by
  have notRetired : id ∉ inbox.retired := by
    intro retired
    exact consistent.retiredUnregistered id retired (consistent.acceptedRegistered accepted)
  simp [held, notRetired]

theorem Consistent.exactly_one {inbox : AcknowledgmentInbox} {id : DeliveryId}
    (consistent : Consistent inbox) (accepted : id ∈ inbox.state.accepted) :
    (id ∈ inbox.state.ready ∧ id ∉ inbox.state.retry ∧ id ∉ inbox.held) ∨
    (id ∉ inbox.state.ready ∧ id ∈ inbox.state.retry ∧ id ∉ inbox.held) ∨
    (id ∉ inbox.state.ready ∧ id ∉ inbox.state.retry ∧ id ∈ inbox.held) := by
  have member := consistent.acceptedLocated id accepted
  have distinct := consistent.distinct
  simp only [located, List.nodup_append, List.mem_append] at member distinct
  rw [consistent.mem_held accepted]
  rcases distinct with ⟨⟨-, -, readyRetry⟩, -, queuedTaken⟩
  rcases member with (ready | retry) | taken
  · exact Or.inl ⟨ready, fun retry => readyRetry id ready id retry rfl,
      fun taken => queuedTaken id (Or.inl ready) id taken rfl⟩
  · exact Or.inr (Or.inl ⟨fun ready => readyRetry id ready id retry rfl, retry,
      fun taken => queuedTaken id (Or.inr retry) id taken rfl⟩)
  · exact Or.inr (Or.inr ⟨fun ready => queuedTaken id (Or.inl ready) id taken rfl,
      fun retry => queuedTaken id (Or.inr retry) id taken rfl, taken⟩)

structure Sound (inbox : AcknowledgmentInbox) (history : List InboxEntry) : Prop where
  consistent : Consistent inbox
  wakeful : Wakeful inbox
  ordered : Ordered inbox history

theorem sound_of_run {labels : List InboxLabel} {inbox : AcknowledgmentInbox}
    {history : List InboxEntry} (runs : machine.run labels = some (inbox, history)) :
    Sound inbox history := by
  refine machine.run_invariant ?_ ?_ runs
  · refine ⟨⟨?_, ?_, ?_, ?_, ?_, ?_⟩, fun nonempty => absurd rfl nonempty, ?_⟩
    all_goals simp [machine, located]
    exact ⟨by simp [acceptedIds], by simp [acceptedIds], by simp [acceptedIds, handedIds], by simp⟩
  · intro inbox history label next entries sound stepped
    exact ⟨sound.consistent.step stepped, sound.wakeful.step stepped,
      sound.ordered.step sound.consistent stepped⟩

/-- In every state of every run: accepted ids are registered, each is in exactly one of
the two queues or with a consumer, ids come out in the order of their acceptance until
one is deferred, a closed inbox refuses submissions, and a ready id has its wake-up. -/
theorem run_keeps_inbox_sound {labels : List InboxLabel} {inbox : AcknowledgmentInbox}
    {history : List InboxEntry} (runs : machine.run labels = some (inbox, history)) :
    inbox.state.accepted ⊆ inbox.state.registered ∧
    (inbox.state.ready ++ inbox.state.retry).Nodup ∧
    (∀ id ∈ inbox.state.ready ++ inbox.state.retry, id ∈ inbox.state.accepted) ∧
    (∀ id ∈ inbox.state.accepted,
      (id ∈ inbox.state.ready ∧ id ∉ inbox.state.retry ∧ id ∉ inbox.held) ∨
      (id ∉ inbox.state.ready ∧ id ∈ inbox.state.retry ∧ id ∉ inbox.held) ∨
      (id ∉ inbox.state.ready ∧ id ∉ inbox.state.retry ∧ id ∈ inbox.held)) ∧
    (acceptedIds history).Nodup ∧
    ((∀ id, .deferred id ∉ history) →
      (handedIds history ++ inbox.state.ready).Sublist (acceptedIds history)) ∧
    (.closed ∈ history → ∀ id,
      inbox.state.submit id =
        { state := inbox.state, notify := false, returned := false }) ∧
    (inbox.state.ready ≠ [] → inbox.unsentNotifications = 0 → inbox.woken = ∅ →
      inbox.changed.permit = true ∨ inbox.changed.assigned ≠ []) := by
  have sound := sound_of_run runs
  have consistent := sound.consistent
  have ordered := sound.ordered
  refine ⟨consistent.acceptedRegistered, (List.nodup_append.mp consistent.distinct).1,
    consistent.queuedAccepted, fun id => consistent.exactly_one, ordered.acceptedDistinct,
    fun noDeferral => (ordered.inOrder noDeferral).2, ?_, ?_⟩
  · intro closed id
    exact AcknowledgmentState.submit_of_closed (ordered.closedStays closed) id
  · intro nonempty noUnsent noWoken
    rcases sound.wakeful nonempty with available | unsent | woken
    · exact available
    · omega
    · simp [noWoken] at woken

/-- A consumer that takes one of two ready ids is told about the other one. -/
theorem run_keeps_inbox_sound_after_partial_take :
    ∃ inbox history,
      machine.run [.register 1, .register 2, .submit 2, .submit 1, .notifyOne, .notifyOne,
        .wait 0, .takeReady 0 1, .notifyOne] = some (inbox, history) ∧
      handedIds history = [2] ∧ inbox.state.ready = [1] ∧
      (inbox.changed.permit = true ∨ inbox.changed.assigned ≠ []) := by
  have runs : machine.run [.register 1, .register 2, .submit 2, .submit 1, .notifyOne,
      .notifyOne, .wait 0, .takeReady 0 1, .notifyOne] =
      some ({ state := { registered := {2, 1}, accepted := {1, 2}, ready := [1] },
              changed := { permit := true }, taken := [2] },
        [.accepted 2, .submitted 2 true, .accepted 1, .submitted 1 true, .handed [2]]) := by
    decide
  have sound := run_keeps_inbox_sound runs
  exact ⟨_, _, runs, rfl, rfl, sound.2.2.2.2.2.2.2 (by simp) rfl rfl⟩

end SignalPurple.AcknowledgmentInbox
