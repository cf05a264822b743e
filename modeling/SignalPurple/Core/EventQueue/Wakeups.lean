import SignalPurple.Core.EventQueue.Delivery

/-! # Neither side of the event queue is stranded

The notifier byte follows the pending flag, a queued event keeps the flag up, and a
producer that nobody has notified is waiting behind a queued event that a later
`poll` will remove.
-/

namespace SignalPurple

def EventQueueLabel.WriteSucceeds : EventQueueLabel → Prop
  | .emit _ _ write => write = .wroteByte
  | .wake _ write => write = .wroteByte
  | _ => True

namespace EventQueue

structure Awake (queue : EventQueue) : Prop where
  pendingIffReadable : queue.notificationPending = true ↔ 0 < queue.unreadNotifications
  announced : queue.queued ≠ [] → queue.notificationPending = true
  blocked : ∀ waiting ∈ queue.waitingProducers, waiting.notified = false →
    queue.queued ≠ [] ∧ queue.closed = false
  goneClosed : queue.receiverAlive = false → queue.closed = true

theorem notified_of_mem_notifyAll {queue : EventQueue} {waiting : WaitingProducer}
    (member : waiting ∈ queue.notifyAll.waitingProducers) : waiting.notified = true := by
  rcases List.mem_map.mp member with ⟨before, -, rfl⟩
  rfl

theorem Awake.notifyLocked {queue : EventQueue}
    (exact : queue.notificationPending = true ↔ 0 < queue.unreadNotifications) :
    let notified := queue.notifyLocked .wroteByte
    notified.notificationPending = true ∧ 0 < notified.unreadNotifications ∧
      notified = { queue with
        notificationPending := notified.notificationPending
        unreadNotifications := notified.unreadNotifications } := by
  unfold EventQueue.notifyLocked
  split
  next pending =>
    exact ⟨pending, exact.mp pending, rfl⟩
  next => exact ⟨rfl, Nat.succ_pos _, rfl⟩

theorem Awake.stopWaiting {queue : EventQueue} (awake : Awake queue)
    (waiting : WaitingProducer) : Awake (queue.stopWaiting waiting) where
  pendingIffReadable := awake.pendingIffReadable
  announced := awake.announced
  blocked := fun other member => awake.blocked other (List.mem_of_mem_erase member)
  goneClosed := awake.goneClosed

theorem queued_ne_nil_of_blocked {limits : EventQueueLimits} {queue : EventQueue}
    (accounted : Accounted limits queue)
    (reason : queue.queuedBytes ≠ 0 ∨ limits.capacity ≤ queue.queued.length) :
    queue.queued ≠ [] := by
  intro none
  rcases reason with someBytes | full
  · apply someBytes
    rw [← UInt64.toNat_inj, accounted.bytes, none]
    rfl
  · have positive := limits.capacityPositive
    rw [none, List.length_nil] at full
    omega

theorem Awake.attempt {limits : EventQueueLimits} {queue next : EventQueue} {producer : Nat}
    {event : Event} {history entries : List EventQueueEntry} (awake : Awake queue)
    (delivering : Delivering limits queue history)
    (attempted : Attempt limits queue producer event .wroteByte next entries) :
    Awake next := by
  cases attempted with
  | refused => exact awake
  | waits opened blocked =>
      have alive : queue.receiverAlive = true := by
        by_contra gone
        simp [awake.goneClosed (by simpa using gone)] at opened
      have nonempty := queued_ne_nil_of_blocked (delivering.accounted alive) blocked
      refine ⟨awake.pendingIffReadable, awake.announced, ?_, awake.goneClosed⟩
      intro waiting member unnotified
      rcases List.mem_append.mp member with earlier | new
      · exact awake.blocked waiting earlier unnotified
      · exact ⟨nonempty, opened⟩
  | admitted opened alive room fits =>
      have exactAfter : (queue.enqueue event).notificationPending = true ↔
          0 < (queue.enqueue event).unreadNotifications := awake.pendingIffReadable
      rcases Awake.notifyLocked exactAfter with ⟨pending, readable, same⟩
      rw [same]
      refine ⟨⟨fun _ => readable, fun _ => pending⟩, fun _ => pending, ?_, awake.goneClosed⟩
      intro waiting member unnotified
      refine ⟨?_, opened⟩
      simp [enqueue]

theorem Awake.step {limits : EventQueueLimits} {queue next : EventQueue}
    {label : EventQueueLabel} {history entries : List EventQueueEntry} (awake : Awake queue)
    (delivering : Delivering limits queue history) (succeeds : label.WriteSucceeds)
    (stepped : queue.step limits label = some (next, entries)) : Awake next := by
  cases transition_of_step stepped with
  | emit result =>
      cases succeeds
      exact awake.attempt delivering result
  | @wake waiting write _ _ member result =>
      cases succeeds
      have stopped : Delivering limits (queue.stopWaiting waiting) (history ++ []) :=
        delivering.frame rfl rfl rfl rfl rfl
      exact (awake.stopWaiting waiting).attempt stopped result
  | @pollEvent event rest alive first =>
      have announced : queue.notificationPending = true :=
        awake.announced (by simp [first])
      rw [release_eq]
      refine ⟨awake.pendingIffReadable, fun _ => announced, ?_, awake.goneClosed⟩
      intro waiting member unnotified
      simp [notified_of_mem_notifyAll member] at unnotified
  | pollNothing alive none kind =>
      refine ⟨by simp, fun nonempty => absurd none nonempty, awake.blocked, awake.goneClosed⟩
  | close =>
      refine ⟨awake.pendingIffReadable, awake.announced, ?_, fun _ => rfl⟩
      intro waiting member unnotified
      simp [notified_of_mem_notifyAll member] at unnotified
  | drop =>
      refine ⟨awake.pendingIffReadable, fun nonempty => absurd rfl nonempty, ?_, fun _ => rfl⟩
      intro waiting member unnotified
      simp [notified_of_mem_notifyAll member] at unnotified
  | dropSinks => exact ⟨awake.pendingIffReadable, awake.announced, awake.blocked, awake.goneClosed⟩

theorem awake_initial {limits : EventQueueLimits} : Awake (machine limits).initial := by
  constructor <;> simp [machine]

/-- Waiting is explained by the contents, so the two invariants go together. -/
structure Live (limits : EventQueueLimits) (queue : EventQueue)
    (history : List EventQueueEntry) : Prop
    extends Delivering limits queue history, Awake queue

theorem awake_of_run {limits : EventQueueLimits} {labels : List EventQueueLabel}
    {queue : EventQueue} {history : List EventQueueEntry}
    (succeeds : ∀ label ∈ labels, label.WriteSucceeds)
    (runs : (machine limits).run labels = some (queue, history)) : Awake queue := by
  have meets : (machine limits).StepsMeet (fun _ label => label.WriteSucceeds) {} labels :=
    (machine limits).stepsMeet_of_forall fun label member _ => succeeds label member
  have live : Live limits queue history := by
    refine (machine limits).run_invariant_of_steps ?_ ?_ meets runs
    · exact ⟨delivering_initial, awake_initial⟩
    · intro queue history label next entries live succeeds stepped
      exact ⟨live.toDelivering.step stepped, live.toAwake.step live.toDelivering succeeds stepped⟩
  exact live.toAwake

/-- The two operations that call `notify_all` leave the same producers waiting, all of
them notified. -/
theorem releases_waiting_producers {limits : EventQueueLimits} {queue next : EventQueue}
    {label : EventQueueLabel} {entries : List EventQueueEntry}
    (stepped : queue.step limits label = some (next, entries))
    (releasing : label = .close ∨ ∃ event, .polled (.event event) ∈ entries) :
    next.waitingProducers =
      queue.waitingProducers.map fun waiting => { waiting with notified := true } := by
  cases transition_of_step stepped with
  | emit result => cases result <;> simp at releasing
  | wake member result => cases result <;> simp at releasing
  | pollEvent => rw [release_eq]; rfl
  | pollNothing alive none kind => rcases kind with rfl | rfl <;> simp at releasing
  | close => rfl
  | drop => simp at releasing
  | dropSinks => simp at releasing

theorem Attempt.unreadNotifications_le {limits : EventQueueLimits} {queue next : EventQueue}
    {producer : Nat} {event : Event} {write : NotifierWrite} {entries : List EventQueueEntry}
    (attempted : Attempt limits queue producer event write next entries) :
    queue.unreadNotifications ≤ next.unreadNotifications := by
  cases attempted with
  | refused => exact Nat.le_refl _
  | waits => exact Nat.le_refl _
  | admitted =>
      unfold EventQueue.notifyLocked
      split
      · exact Nat.le_refl _
      · cases write <;> simp [enqueue]

theorem drained_only_when_empty {limits : EventQueueLimits} {queue next : EventQueue}
    {label : EventQueueLabel} {entries : List EventQueueEntry}
    (stepped : queue.step limits label = some (next, entries))
    (readable : 0 < queue.unreadNotifications) (drained : next.unreadNotifications = 0) :
    queue.queued = [] ∧
      (entries = [.polled .empty] ∨ entries = [.polled .disconnected]) := by
  cases transition_of_step stepped with
  | emit result =>
      have kept := result.unreadNotifications_le
      omega
  | wake member result =>
      have kept := result.unreadNotifications_le
      simp only [stopWaiting] at kept
      omega
  | pollEvent =>
      rw [release_eq] at drained
      exact absurd drained (Nat.ne_of_gt readable)
  | pollNothing alive none kind =>
      refine ⟨none, ?_⟩
      rcases kind with rfl | rfl
      · exact Or.inl rfl
      · exact Or.inr rfl
  | close => exact absurd drained (Nat.ne_of_gt readable)
  | drop => exact absurd drained (Nat.ne_of_gt readable)
  | dropSinks => exact absurd drained (Nat.ne_of_gt readable)

/-- In every state of a run whose notifier writes succeed: the flag and the socket
agree, a queued event keeps the socket readable, a producer nobody notified waits
behind a queued event of an open queue, and the steps that make room or close the
queue notify every producer. -/
theorem run_never_strands {limits : EventQueueLimits} {labels : List EventQueueLabel}
    {queue : EventQueue} {history : List EventQueueEntry}
    (succeeds : ∀ label ∈ labels, label.WriteSucceeds)
    (runs : (machine limits).run labels = some (queue, history)) :
    (queue.notificationPending = true ↔ 0 < queue.unreadNotifications) ∧
    (queue.queued ≠ [] → queue.notificationPending = true) ∧
    (∀ waiting ∈ queue.waitingProducers, waiting.notified = false →
      queue.queued ≠ [] ∧ queue.closed = false) ∧
    (∀ label next entries, queue.step limits label = some (next, entries) →
      (label = .close ∨ ∃ event, .polled (.event event) ∈ entries) →
        next.waitingProducers = queue.waitingProducers.map
          fun waiting => { waiting with notified := true }) ∧
    (∀ label next entries, queue.step limits label = some (next, entries) →
      0 < queue.unreadNotifications → next.unreadNotifications = 0 →
        queue.queued = [] ∧
          (entries = [.polled .empty] ∨ entries = [.polled .disconnected])) := by
  have awake := awake_of_run succeeds runs
  refine ⟨awake.pendingIffReadable, awake.announced, awake.blocked, ?_, ?_⟩
  · intro label next entries stepped releasing
    exact releases_waiting_producers stepped releasing
  · intro label next entries stepped readable drained
    exact drained_only_when_empty stepped readable drained

/-- The second producer of the run above before it woke: it waits behind one event. -/
theorem run_never_strands_while_waiting :
    ∃ queue history,
      (machine smallLimits).run (backpressureLabels.take 2) = some (queue, history) ∧
      queue.waitingProducers ≠ [] ∧ queue.queued ≠ [] ∧
      0 < queue.unreadNotifications := by
  have runs : (machine smallLimits).run (backpressureLabels.take 2) =
      some ({ queued := [eventOfBytes [1, 2, 3] (by decide)], notificationPending := true,
              queuedBytes := 3, unreadNotifications := 1,
              waitingProducers := [⟨1, eventOfBytes [4] (by decide), false⟩] },
        [.admitted (eventOfBytes [1, 2, 3] (by decide))]) := by
    decide
  have succeeds : ∀ label ∈ backpressureLabels.take 2, label.WriteSucceeds := by
    simp [backpressureLabels, EventQueueLabel.WriteSucceeds]
  have live := run_never_strands succeeds runs
  refine ⟨_, _, runs, by simp, by simp, ?_⟩
  exact live.1.mp (live.2.1 (by simp))

end EventQueue

end SignalPurple
