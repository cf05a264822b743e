import SignalPurple.Core.Acknowledgment
import SignalPurple.Foundation.Machine
import SignalPurple.Foundation.Notify

/-! # Concurrent use of the acknowledgment inbox

The inbox shared by the UI thread and the actor. One step is one critical section of
the mutex or one operation of the notification object, so a `notify_one` is a step of
its own after the section that asked for it. Ids taken by a consumer and ids already
unregistered are kept beside the state to speak about them.
-/

namespace SignalPurple

structure AcknowledgmentInbox where
  state : AcknowledgmentState := {}
  changed : Notify Nat := {}
  /-- Operations between their state update and their `notify_one`. -/
  unsentNotifications : Nat := 0
  /-- Consumers that returned from `wait` and have not called `take_ready` since. -/
  woken : Finset Nat := ∅
  /-- Ids handed out by `take_ready` and not deferred since. -/
  taken : List DeliveryId := []
  /-- Ids that were unregistered. -/
  retired : Finset DeliveryId := ∅
  deriving DecidableEq

inductive InboxLabel where
  | register (deliveryId : DeliveryId)
  | unregister (deliveryId : DeliveryId)
  | submit (deliveryId : DeliveryId)
  | takeReady (consumer maximum : Nat)
  | deferRetry (deliveryId : DeliveryId)
  | activateRetries
  | close
  | notifyOne
  | wait (consumer : Nat)
  | resume (consumer : Nat)
  | cancelWait (consumer : Nat)

inductive InboxEntry where
  | accepted (deliveryId : DeliveryId)
  | submitted (deliveryId : DeliveryId) (returned : Bool)
  | handed (deliveryIds : List DeliveryId)
  | deferred (deliveryId : DeliveryId)
  | closed
  deriving DecidableEq

namespace AcknowledgmentInbox

/-- The state after a critical section that may still owe a `notify_one`. -/
def update (inbox : AcknowledgmentInbox) (state : AcknowledgmentState) (notify : Bool) :
    AcknowledgmentInbox :=
  { inbox with
    state
    unsentNotifications := inbox.unsentNotifications + if notify then 1 else 0 }

def submit (inbox : AcknowledgmentInbox) (deliveryId : DeliveryId) :
    AcknowledgmentInbox × List InboxEntry :=
  let submission := inbox.state.submit deliveryId
  (inbox.update submission.state submission.notify,
    (if submission.notify then [.accepted deliveryId] else []) ++
      [.submitted deliveryId submission.returned])

def takeReady (inbox : AcknowledgmentInbox) (consumer maximum : Nat) :
    AcknowledgmentInbox × List InboxEntry :=
  let taken := inbox.state.takeReady maximum
  ({ inbox.update taken.state taken.notify with
     woken := inbox.woken.erase consumer
     taken := inbox.taken ++ taken.deliveryIds },
   [.handed taken.deliveryIds])

def deferRetry (inbox : AcknowledgmentInbox) (deliveryId : DeliveryId) :
    AcknowledgmentInbox :=
  { inbox with
    state := inbox.state.deferRetry deliveryId
    taken := inbox.taken.erase deliveryId }

def unregister (inbox : AcknowledgmentInbox) (deliveryId : DeliveryId) :
    AcknowledgmentInbox :=
  { inbox with
    state := inbox.state.unregister deliveryId
    retired := insert deliveryId inbox.retired }

def wait (inbox : AcknowledgmentInbox) (consumer : Nat) : AcknowledgmentInbox :=
  let awaited := inbox.changed.await consumer
  { inbox with
    changed := awaited.1
    woken := if awaited.2 then insert consumer inbox.woken else inbox.woken }

def step (inbox : AcknowledgmentInbox) :
    InboxLabel → Option (AcknowledgmentInbox × List InboxEntry)
  | .register deliveryId =>
      -- Delivery ids are fresh: one that was unregistered never comes back.
      if deliveryId ∉ inbox.retired then
        some ({ inbox with state := inbox.state.register deliveryId }, [])
      else none
  | .unregister deliveryId => some (inbox.unregister deliveryId, [])
  | .submit deliveryId => some (inbox.submit deliveryId)
  | .takeReady consumer maximum => some (inbox.takeReady consumer maximum)
  | .deferRetry deliveryId =>
      -- At most one deferral for each id that `take_ready` returned.
      if deliveryId ∈ inbox.taken then
        some (inbox.deferRetry deliveryId, [.deferred deliveryId])
      else none
  | .activateRetries =>
      let activated := inbox.state.activateRetries
      some (inbox.update activated.1 activated.2, [])
  | .close => some (inbox.update inbox.state.close true, [.closed])
  | .notifyOne =>
      if 0 < inbox.unsentNotifications then
        some ({ inbox with
          changed := inbox.changed.notifyOne
          unsentNotifications := inbox.unsentNotifications - 1 }, [])
      else none
  | .wait consumer => some (inbox.wait consumer, [])
  | .resume consumer => do
      let changed ← inbox.changed.resume consumer
      some ({ inbox with changed, woken := insert consumer inbox.woken }, [])
  | .cancelWait consumer => do
      let changed ← inbox.changed.cancel consumer
      some ({ inbox with changed }, [])

def machine : Machine AcknowledgmentInbox InboxLabel InboxEntry where
  initial := {}
  step := step

/-! ## What one step can do -/

def accept (inbox : AcknowledgmentInbox) (deliveryId : DeliveryId) : AcknowledgmentInbox :=
  inbox.update (inbox.state.accept deliveryId) true

inductive Transition (inbox : AcknowledgmentInbox) :
    InboxLabel → AcknowledgmentInbox → List InboxEntry → Prop
  | register {deliveryId} (fresh : deliveryId ∉ inbox.retired) :
      Transition inbox (.register deliveryId)
        { inbox with state := inbox.state.register deliveryId } []
  | unregister {deliveryId} :
      Transition inbox (.unregister deliveryId) (inbox.unregister deliveryId) []
  | accepted {deliveryId} (opened : inbox.state.isOpen = true)
      (accepts : inbox.state.accepts deliveryId = true) :
      Transition inbox (.submit deliveryId) (inbox.accept deliveryId)
        [.accepted deliveryId, .submitted deliveryId true]
  | ignored {deliveryId returned}
      (reason : inbox.state.isOpen = returned)
      (refused : returned = true → inbox.state.accepts deliveryId = false) :
      Transition inbox (.submit deliveryId) inbox [.submitted deliveryId returned]
  | takeReady {consumer maximum} :
      Transition inbox (.takeReady consumer maximum)
        (inbox.takeReady consumer maximum).1
        [.handed (inbox.state.takeReady maximum).deliveryIds]
  | deferRetry {deliveryId} (member : deliveryId ∈ inbox.taken) :
      Transition inbox (.deferRetry deliveryId) (inbox.deferRetry deliveryId)
        [.deferred deliveryId]
  | activateRetries :
      Transition inbox .activateRetries
        (inbox.update inbox.state.activateRetries.1 inbox.state.activateRetries.2) []
  | close : Transition inbox .close (inbox.update inbox.state.close true) [.closed]
  | notifyOne (owed : 0 < inbox.unsentNotifications) :
      Transition inbox .notifyOne
        { inbox with
          changed := inbox.changed.notifyOne
          unsentNotifications := inbox.unsentNotifications - 1 } []
  | wait {consumer} : Transition inbox (.wait consumer) (inbox.wait consumer) []
  | resume {consumer changed} (resumed : inbox.changed.resume consumer = some changed) :
      Transition inbox (.resume consumer)
        { inbox with changed, woken := insert consumer inbox.woken } []
  | cancelWait {consumer changed} (cancelled : inbox.changed.cancel consumer = some changed) :
      Transition inbox (.cancelWait consumer) { inbox with changed } []

theorem transition_of_submit (inbox : AcknowledgmentInbox) (deliveryId : DeliveryId) :
    Transition inbox (.submit deliveryId) (inbox.submit deliveryId).1
      (inbox.submit deliveryId).2 := by
  by_cases opened : inbox.state.isOpen = true
  · by_cases accepts : inbox.state.accepts deliveryId = true
    · rw [submit, AcknowledgmentState.submit_of_accepts opened accepts]
      exact Transition.accepted opened accepts
    · have refused : inbox.state.accepts deliveryId = false := by simpa using accepts
      rw [submit, AcknowledgmentState.submit_of_refused opened refused]
      exact Transition.ignored opened fun _ => refused
  · have closed : inbox.state.isOpen = false := by simpa using opened
    rw [submit, AcknowledgmentState.submit_of_closed closed]
    exact Transition.ignored closed (by simp)

theorem transition_of_step {inbox next : AcknowledgmentInbox} {label : InboxLabel}
    {entries : List InboxEntry} (stepped : inbox.step label = some (next, entries)) :
    Transition inbox label next entries := by
  cases label with
  | register deliveryId =>
      simp only [step, Option.ite_none_right_eq_some, Option.some.injEq,
        Prod.mk.injEq] at stepped
      rcases stepped with ⟨fresh, rfl, rfl⟩
      exact Transition.register fresh
  | unregister deliveryId =>
      cases stepped
      exact Transition.unregister
  | submit deliveryId =>
      have submitted := inbox.transition_of_submit deliveryId
      rw [Option.some.inj stepped] at submitted
      exact submitted
  | takeReady consumer maximum =>
      cases stepped
      exact Transition.takeReady
  | deferRetry deliveryId =>
      simp only [step, Option.ite_none_right_eq_some, Option.some.injEq,
        Prod.mk.injEq] at stepped
      rcases stepped with ⟨member, rfl, rfl⟩
      exact Transition.deferRetry member
  | activateRetries =>
      cases stepped
      exact Transition.activateRetries
  | close =>
      cases stepped
      exact Transition.close
  | notifyOne =>
      simp only [step, Option.ite_none_right_eq_some, Option.some.injEq,
        Prod.mk.injEq] at stepped
      rcases stepped with ⟨owed, rfl, rfl⟩
      exact Transition.notifyOne owed
  | wait consumer =>
      cases stepped
      exact Transition.wait
  | resume consumer =>
      rcases Option.bind_eq_some_iff.mp stepped with ⟨changed, resumed, equal⟩
      cases equal
      exact Transition.resume resumed
  | cancelWait consumer =>
      rcases Option.bind_eq_some_iff.mp stepped with ⟨changed, cancelled, equal⟩
      cases equal
      exact Transition.cancelWait cancelled

/-! ## Where an accepted id is -/

/-- Every copy of an id that is queued or handed out. -/
def located (inbox : AcknowledgmentInbox) : List DeliveryId :=
  inbox.state.ready ++ inbox.state.retry ++ inbox.taken

structure Consistent (inbox : AcknowledgmentInbox) : Prop where
  acceptedRegistered : inbox.state.accepted ⊆ inbox.state.registered
  retiredUnregistered : ∀ id ∈ inbox.retired, id ∉ inbox.state.registered
  distinct : inbox.located.Nodup
  queuedAccepted : ∀ id ∈ inbox.state.ready ++ inbox.state.retry, id ∈ inbox.state.accepted
  locatedKnown : ∀ id ∈ inbox.located, id ∈ inbox.state.accepted ∨ id ∈ inbox.retired
  acceptedLocated : ∀ id ∈ inbox.state.accepted, id ∈ inbox.located

theorem Consistent.of_perm {inbox next : AcknowledgmentInbox} (consistent : Consistent inbox)
    (sameRegistered : next.state.registered = inbox.state.registered)
    (sameAccepted : next.state.accepted = inbox.state.accepted)
    (sameRetired : next.retired = inbox.retired)
    (moved : next.located.Perm inbox.located)
    (queued : ∀ id ∈ next.state.ready ++ next.state.retry, id ∈ inbox.state.accepted) :
    Consistent next where
  acceptedRegistered := by
    rw [sameAccepted, sameRegistered]
    exact consistent.acceptedRegistered
  retiredUnregistered := by
    rw [sameRetired, sameRegistered]
    exact consistent.retiredUnregistered
  distinct := moved.nodup_iff.mpr consistent.distinct
  queuedAccepted := by
    rw [sameAccepted]
    exact queued
  locatedKnown := by
    intro id member
    rw [sameAccepted, sameRetired]
    exact consistent.locatedKnown id (moved.mem_iff.mp member)
  acceptedLocated := by
    intro id member
    rw [sameAccepted] at member
    exact moved.mem_iff.mpr (consistent.acceptedLocated id member)

theorem Consistent.register {inbox : AcknowledgmentInbox} {deliveryId : DeliveryId}
    (consistent : Consistent inbox) (fresh : deliveryId ∉ inbox.retired) :
    Consistent { inbox with state := inbox.state.register deliveryId } where
  acceptedRegistered :=
    consistent.acceptedRegistered.trans (Finset.subset_insert _ _)
  retiredUnregistered := by
    intro id retired member
    rcases Finset.mem_insert.mp member with rfl | earlier
    · exact fresh retired
    · exact consistent.retiredUnregistered id retired earlier
  distinct := consistent.distinct
  queuedAccepted := consistent.queuedAccepted
  locatedKnown := consistent.locatedKnown
  acceptedLocated := consistent.acceptedLocated

theorem mem_located_unregister {inbox : AcknowledgmentInbox} {id deliveryId : DeliveryId}
    (different : id ≠ deliveryId) :
    id ∈ (inbox.unregister deliveryId).located ↔ id ∈ inbox.located := by
  simp [located, AcknowledgmentInbox.unregister, AcknowledgmentState.unregister, different]

theorem Consistent.unregister {inbox : AcknowledgmentInbox} (consistent : Consistent inbox)
    (deliveryId : DeliveryId) : Consistent (inbox.unregister deliveryId) where
  acceptedRegistered := Finset.erase_subset_erase _ consistent.acceptedRegistered
  retiredUnregistered := by
    intro id retired member
    rcases Finset.mem_insert.mp retired with rfl | earlier
    · exact Finset.notMem_erase id _ member
    · exact consistent.retiredUnregistered id earlier (Finset.mem_of_mem_erase member)
  distinct := by
    refine consistent.distinct.sublist ?_
    exact ((List.filter_sublist).append List.filter_sublist).append (List.Sublist.refl _)
  queuedAccepted := by
    intro id member
    simp only [AcknowledgmentInbox.unregister, AcknowledgmentState.unregister,
      List.mem_append, List.mem_filter] at member
    simp only [AcknowledgmentInbox.unregister, AcknowledgmentState.unregister,
      Finset.mem_erase]
    rcases member with ⟨queued, different⟩ | ⟨queued, different⟩
    · exact ⟨by simpa using different,
        consistent.queuedAccepted id (List.mem_append_left _ queued)⟩
    · exact ⟨by simpa using different,
        consistent.queuedAccepted id (List.mem_append_right _ queued)⟩
  locatedKnown := by
    intro id member
    by_cases same : id = deliveryId
    · exact Or.inr (Finset.mem_insert.mpr (Or.inl same))
    · rcases consistent.locatedKnown id ((mem_located_unregister same).mp member) with
        accepted | retired
      · exact Or.inl (Finset.mem_erase.mpr ⟨same, accepted⟩)
      · exact Or.inr (Finset.mem_insert_of_mem retired)
  acceptedLocated := by
    intro id member
    rcases Finset.mem_erase.mp member with ⟨different, accepted⟩
    exact (mem_located_unregister different).mpr (consistent.acceptedLocated id accepted)

theorem Consistent.accept {inbox : AcknowledgmentInbox} {deliveryId : DeliveryId}
    (consistent : Consistent inbox) (accepts : inbox.state.accepts deliveryId = true) :
    Consistent (inbox.accept deliveryId) := by
  simp only [AcknowledgmentState.accepts, Bool.and_eq_true, decide_eq_true_eq] at accepts
  rcases accepts with ⟨registered, notAccepted⟩
  have moved : (inbox.accept deliveryId).located.Perm (deliveryId :: inbox.located) := by
    simp only [located, AcknowledgmentInbox.accept, update, AcknowledgmentState.accept,
      List.append_assoc, List.singleton_append]
    exact List.perm_middle
  have absent : deliveryId ∉ inbox.located := by
    intro member
    rcases consistent.locatedKnown deliveryId member with accepted | retired
    · exact notAccepted accepted
    · exact consistent.retiredUnregistered deliveryId retired registered
  refine ⟨Finset.insert_subset registered consistent.acceptedRegistered,
    consistent.retiredUnregistered,
    moved.nodup_iff.mpr (List.nodup_cons.mpr ⟨absent, consistent.distinct⟩), ?_, ?_, ?_⟩
  · intro id member
    simp only [AcknowledgmentInbox.accept, update, AcknowledgmentState.accept,
      List.append_assoc, List.singleton_append, List.mem_append, List.mem_cons] at member
    refine Finset.mem_insert.mpr ?_
    rcases member with queued | rfl | queued
    · exact Or.inr (consistent.queuedAccepted id (List.mem_append_left _ queued))
    · exact Or.inl rfl
    · exact Or.inr (consistent.queuedAccepted id (List.mem_append_right _ queued))
  · intro id member
    rcases List.mem_cons.mp (moved.mem_iff.mp member) with rfl | earlier
    · exact Or.inl (Finset.mem_insert_self _ _)
    · rcases consistent.locatedKnown id earlier with accepted | retired
      · exact Or.inl (Finset.mem_insert_of_mem accepted)
      · exact Or.inr retired
  · intro id member
    refine moved.mem_iff.mpr (List.mem_cons.mpr ?_)
    rcases Finset.mem_insert.mp member with same | accepted
    · exact Or.inl same
    · exact Or.inr (consistent.acceptedLocated id accepted)

theorem Consistent.takeReady {inbox : AcknowledgmentInbox} (consistent : Consistent inbox)
    (consumer maximum : Nat) : Consistent (inbox.takeReady consumer maximum).1 := by
  refine consistent.of_perm rfl rfl rfl ?_ ?_
  · let taken := inbox.state.takeReady maximum
    have before : inbox.located =
        taken.deliveryIds ++ (taken.state.ready ++ inbox.state.retry ++ inbox.taken) := by
      rw [located, inbox.state.takeReady_splits maximum]
      simp [taken, List.append_assoc]
    have after : (inbox.takeReady consumer maximum).1.located =
        (taken.state.ready ++ inbox.state.retry ++ inbox.taken) ++ taken.deliveryIds := by
      rw [List.append_assoc]
      rfl
    rw [before, after]
    exact List.perm_append_comm
  · intro id member
    refine consistent.queuedAccepted id ?_
    rcases List.mem_append.mp member with queued | queued
    · exact List.mem_append_left _ (List.mem_of_mem_drop queued)
    · exact List.mem_append_right _ queued

theorem Consistent.forget {inbox : AcknowledgmentInbox} {deliveryId : DeliveryId}
    (consistent : Consistent inbox) (notAccepted : deliveryId ∉ inbox.state.accepted) :
    Consistent { inbox with taken := inbox.taken.erase deliveryId } := by
  have fewer : (inbox.state.ready ++ inbox.state.retry ++ inbox.taken.erase deliveryId).Sublist
      inbox.located :=
    (List.Sublist.refl _).append List.erase_sublist
  refine ⟨consistent.acceptedRegistered, consistent.retiredUnregistered,
    consistent.distinct.sublist fewer, consistent.queuedAccepted, ?_, ?_⟩
  · intro id member
    exact consistent.locatedKnown id (fewer.subset member)
  · intro id accepted
    have different : id ≠ deliveryId := by
      intro same
      rw [same] at accepted
      exact notAccepted accepted
    rcases List.mem_append.mp (consistent.acceptedLocated id accepted) with queued | taken
    · exact List.mem_append_left _ queued
    · exact List.mem_append_right _ ((List.mem_erase_of_ne different).mpr taken)

theorem Consistent.deferRetry {inbox : AcknowledgmentInbox} {deliveryId : DeliveryId}
    (consistent : Consistent inbox) (member : deliveryId ∈ inbox.taken) :
    Consistent (inbox.deferRetry deliveryId) := by
  by_cases accepted : deliveryId ∈ inbox.state.accepted
  · have state : inbox.state.deferRetry deliveryId =
        { inbox.state with retry := inbox.state.retry ++ [deliveryId] } := by
      simp [AcknowledgmentState.deferRetry, accepted, consistent.acceptedRegistered accepted]
    refine consistent.of_perm ?_ ?_ rfl ?_ ?_
    · simp [AcknowledgmentInbox.deferRetry, state]
    · simp [AcknowledgmentInbox.deferRetry, state]
    · simp only [located, AcknowledgmentInbox.deferRetry, state, List.append_assoc,
        List.singleton_append]
      refine List.Perm.append_left _ (List.Perm.append_left _ ?_)
      exact (List.perm_cons_erase member).symm
    · intro id queued
      simp only [AcknowledgmentInbox.deferRetry, state, ← List.append_assoc,
        List.mem_append, List.mem_singleton] at queued
      rcases queued with earlier | rfl
      · exact consistent.queuedAccepted id (List.mem_append.mpr earlier)
      · exact accepted
  · have state : inbox.state.deferRetry deliveryId = inbox.state := by
      simp [AcknowledgmentState.deferRetry, accepted]
    rw [AcknowledgmentInbox.deferRetry, state]
    exact consistent.forget accepted

theorem Consistent.activate {inbox next : AcknowledgmentInbox} (consistent : Consistent inbox)
    (isOpen : Bool)
    (sameState : next.state = { inbox.state with
      isOpen, ready := inbox.state.ready ++ inbox.state.retry, retry := [] })
    (sameTaken : next.taken = inbox.taken) (sameRetired : next.retired = inbox.retired) :
    Consistent next := by
  refine consistent.of_perm ?_ ?_ sameRetired ?_ ?_
  · rw [sameState]
  · rw [sameState]
  · rw [located, sameState, sameTaken, List.append_nil]
    exact List.Perm.refl _
  · rw [sameState, List.append_nil]
    exact consistent.queuedAccepted

theorem Consistent.frame {inbox next : AcknowledgmentInbox} (consistent : Consistent inbox)
    (sameState : next.state = inbox.state) (sameTaken : next.taken = inbox.taken)
    (sameRetired : next.retired = inbox.retired) : Consistent next := by
  refine consistent.of_perm (by rw [sameState]) (by rw [sameState]) sameRetired ?_ ?_
  · rw [located, sameState, sameTaken]
    exact List.Perm.refl _
  · rw [sameState]
    exact consistent.queuedAccepted

theorem Consistent.step {inbox next : AcknowledgmentInbox} {label : InboxLabel}
    {entries : List InboxEntry} (consistent : Consistent inbox)
    (stepped : inbox.step label = some (next, entries)) : Consistent next := by
  cases transition_of_step stepped with
  | register fresh => exact consistent.register fresh
  | unregister => exact consistent.unregister _
  | accepted opened accepts => exact consistent.accept accepts
  | ignored => exact consistent
  | takeReady => exact consistent.takeReady _ _
  | deferRetry member => exact consistent.deferRetry member
  | activateRetries => exact consistent.activate inbox.state.isOpen rfl rfl rfl
  | close => exact consistent.activate false rfl rfl rfl
  | notifyOne => exact consistent.frame rfl rfl rfl
  | wait => exact consistent.frame rfl rfl rfl
  | resume => exact consistent.frame rfl rfl rfl
  | cancelWait => exact consistent.frame rfl rfl rfl

end AcknowledgmentInbox

end SignalPurple
