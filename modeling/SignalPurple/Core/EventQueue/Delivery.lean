import SignalPurple.Core.EventQueue

/-! # Delivery and byte accounting of the event queue

Events leave the queue in the order they were admitted, and the byte counter is
the sum of what is queued in every state a run can reach.
-/

namespace SignalPurple.EventQueue

def admittedEvents (history : List EventQueueEntry) : List Event :=
  history.filterMap fun
    | .admitted event => some event
    | _ => none

def polledEvents (history : List EventQueueEntry) : List Event :=
  history.filterMap fun
    | .polled (.event event) => some event
    | _ => none

def totalBytes (events : List Event) : Nat :=
  (events.map fun event => event.data.length).sum

def withData (events : List Event) : List Event :=
  events.filter fun event => decide (0 < event.data.length)

@[simp] theorem admittedEvents_append (before after : List EventQueueEntry) :
    admittedEvents (before ++ after) = admittedEvents before ++ admittedEvents after :=
  List.filterMap_append

@[simp] theorem polledEvents_append (before after : List EventQueueEntry) :
    polledEvents (before ++ after) = polledEvents before ++ polledEvents after :=
  List.filterMap_append

@[simp] theorem totalBytes_cons (event : Event) (events : List Event) :
    totalBytes (event :: events) = event.data.length + totalBytes events := by
  simp [totalBytes]

@[simp] theorem totalBytes_append (before after : List Event) :
    totalBytes (before ++ after) = totalBytes before + totalBytes after := by
  simp [totalBytes]

theorem withData_eq_nil_iff (events : List Event) :
    withData events = [] ↔ totalBytes events = 0 := by
  induction events with
  | nil => simp [withData, totalBytes]
  | cons event events induction =>
      rw [totalBytes_cons, Nat.add_eq_zero_iff, ← induction]
      by_cases hasData : 0 < event.data.length
      · simp [withData, hasData, Nat.ne_of_gt hasData]
      · simp [withData, Nat.eq_zero_of_not_pos hasData]

/-- Within the limit, or over it on account of a single event. -/
def WithinByteLimit (limits : EventQueueLimits) (queue : EventQueue) : Prop :=
  queue.queuedBytes ≤ limits.maxQueuedBytes ∨ (withData queue.queued).length = 1

structure Accounted (limits : EventQueueLimits) (queue : EventQueue) : Prop where
  bytes : queue.queuedBytes.toNat = totalBytes queue.queued
  withinLimit : WithinByteLimit limits queue

structure Delivering (limits : EventQueueLimits) (queue : EventQueue)
    (history : List EventQueueEntry) : Prop where
  polledPrefix : polledEvents history <+: admittedEvents history
  contents : queue.receiverAlive = true →
    polledEvents history ++ queue.queued = admittedEvents history
  accounted : queue.receiverAlive = true → Accounted limits queue
  bounded : queue.queued.length ≤ limits.capacity

theorem bytes_after_enqueue {limits : EventQueueLimits} {queue : EventQueue} {event : Event}
    (fits : queue.exceedsByteLimit limits event = false) :
    (queue.queuedBytes + event.data.size).toNat =
        queue.queuedBytes.toNat + event.data.length ∧
      (queue.queuedBytes = 0 ∨
        queue.queuedBytes + event.data.size ≤ limits.maxQueuedBytes) := by
  by_cases none : queue.queuedBytes = 0
  · simp [none, Bytes.toNat_size]
  · have checked := fits
    simp only [exceedsByteLimit, bne_iff_ne, ne_eq, none, not_false_eq_true, Bool.and_eq_false_imp,
      forall_const] at checked
    cases added : Words.checkedAdd queue.queuedBytes event.data.size with
    | none => simp [added] at checked
    | some total =>
        rcases Words.toNat_of_checkedAdd added with ⟨noWrap, rfl⟩
        have within : queue.queuedBytes + event.data.size ≤ limits.maxQueuedBytes := by
          simpa [added] using checked
        rw [Words.toNat_add_of_lt noWrap, Bytes.toNat_size]
        exact ⟨rfl, Or.inr within⟩

theorem Accounted.enqueue {limits : EventQueueLimits} {queue : EventQueue} {event : Event}
    (accounted : Accounted limits queue)
    (fits : queue.exceedsByteLimit limits event = false) :
    Accounted limits (queue.enqueue event) := by
  rcases bytes_after_enqueue fits with ⟨exact, small⟩
  constructor
  · rw [EventQueue.enqueue, exact, accounted.bytes, totalBytes_append, totalBytes_cons]
    rfl
  · rcases small with none | within
    · have nothing : withData queue.queued = [] := by
        rw [withData_eq_nil_iff, ← accounted.bytes, none]
        rfl
      by_cases hasData : 0 < event.data.length
      · right
        simp only [withData] at nothing
        simp [EventQueue.enqueue, withData, nothing, hasData]
      · left
        have noBytes : event.data.size = 0 := by
          simp [Bytes.size, Nat.eq_zero_of_not_pos hasData]
        simp [EventQueue.enqueue, none, noBytes]
    · exact Or.inl within

theorem Accounted.head_le {limits : EventQueueLimits} {queue : EventQueue} {event : Event}
    {rest : List Event} (accounted : Accounted limits queue)
    (first : queue.queued = event :: rest) : event.data.size ≤ queue.queuedBytes := by
  have sum := accounted.bytes
  rw [first, totalBytes_cons] at sum
  rw [UInt64.le_iff_toNat_le, Bytes.toNat_size]
  omega

theorem Accounted.remove {limits : EventQueueLimits} {queue : EventQueue} {event : Event}
    {rest : List Event} (accounted : Accounted limits queue)
    (first : queue.queued = event :: rest) :
    Accounted limits (release { queue with queued := rest } event) := by
  have sum := accounted.bytes
  rw [first, totalBytes_cons] at sum
  have enough := accounted.head_le first
  have difference : (queue.queuedBytes - event.data.size).toNat = totalBytes rest := by
    rw [UInt64.toNat_sub_of_le _ _ enough, Bytes.toNat_size]
    omega
  rw [release_eq]
  refine ⟨difference, ?_⟩
  rcases accounted.withinLimit with within | single
  · left
    rw [UInt64.le_iff_toNat_le] at within ⊢
    show (queue.queuedBytes - event.data.size).toNat ≤ _
    omega
  · by_cases hasData : 0 < event.data.length
    · -- The one event with data is the one that leaves.
      left
      have nothing : withData rest = [] := by
        simpa [first, withData, hasData] using single
      rw [withData_eq_nil_iff] at nothing
      rw [UInt64.le_iff_toNat_le]
      show (queue.queuedBytes - event.data.size).toNat ≤ _
      omega
    · right
      simpa [first, withData, hasData] using single

theorem queued_notifyLocked (queue : EventQueue) (write : NotifierWrite) :
    (queue.notifyLocked write).queued = queue.queued ∧
      (queue.notifyLocked write).queuedBytes = queue.queuedBytes ∧
      (queue.notifyLocked write).receiverAlive = queue.receiverAlive := by
  unfold notifyLocked
  split
  · simp
  · cases write <;> simp

theorem Accounted.congr {limits : EventQueueLimits} {queue next : EventQueue}
    (accounted : Accounted limits queue) (sameQueued : next.queued = queue.queued)
    (sameBytes : next.queuedBytes = queue.queuedBytes) : Accounted limits next := by
  constructor
  · rw [sameBytes, sameQueued, accounted.bytes]
  · rw [WithinByteLimit, sameBytes, sameQueued]
    exact accounted.withinLimit

theorem Delivering.frame {limits : EventQueueLimits} {queue next : EventQueue}
    {history entries : List EventQueueEntry} (delivering : Delivering limits queue history)
    (sameQueued : next.queued = queue.queued)
    (sameBytes : next.queuedBytes = queue.queuedBytes)
    (sameReceiver : next.receiverAlive = queue.receiverAlive)
    (noAdmission : admittedEvents entries = []) (noPoll : polledEvents entries = []) :
    Delivering limits next (history ++ entries) where
  polledPrefix := by simpa [noAdmission, noPoll] using delivering.polledPrefix
  contents := by simpa [noAdmission, noPoll, sameQueued, sameReceiver] using delivering.contents
  accounted := by
    intro alive
    rw [sameReceiver] at alive
    exact (delivering.accounted alive).congr sameQueued sameBytes
  bounded := by simpa [sameQueued] using delivering.bounded

theorem Delivering.of_contents {limits : EventQueueLimits} {queue : EventQueue}
    {history : List EventQueueEntry}
    (contents : polledEvents history ++ queue.queued = admittedEvents history)
    (accounted : Accounted limits queue)
    (bounded : queue.queued.length ≤ limits.capacity) :
    Delivering limits queue history where
  polledPrefix := ⟨queue.queued, contents⟩
  contents := fun _ => contents
  accounted := fun _ => accounted
  bounded := bounded

theorem Delivering.attempt {limits : EventQueueLimits} {queue next : EventQueue}
    {producer : Nat} {event : Event} {write : NotifierWrite}
    {history entries : List EventQueueEntry} (delivering : Delivering limits queue history)
    (attempted : Attempt limits queue producer event write next entries) :
    Delivering limits next (history ++ entries) := by
  cases attempted with
  | refused => exact delivering.frame rfl rfl rfl rfl rfl
  | waits => exact delivering.frame rfl rfl rfl rfl rfl
  | admitted opened alive room fits =>
      rcases queued_notifyLocked (queue.enqueue event) write with
        ⟨sameQueued, sameBytes, -⟩
      apply Delivering.of_contents
      · rw [sameQueued, admittedEvents_append, ← delivering.contents alive]
        simp [EventQueue.enqueue, admittedEvents, polledEvents]
      · exact ((delivering.accounted alive).enqueue fits).congr sameQueued sameBytes
      · rw [sameQueued]
        simp only [EventQueue.enqueue, List.length_append, List.length_singleton]
        omega

theorem Delivering.step {limits : EventQueueLimits} {queue next : EventQueue}
    {label : EventQueueLabel} {history entries : List EventQueueEntry}
    (delivering : Delivering limits queue history)
    (stepped : queue.step limits label = some (next, entries)) :
    Delivering limits next (history ++ entries) := by
  cases transition_of_step stepped with
  | emit result => exact delivering.attempt result
  | @wake waiting write _ _ member result =>
      have stopped : Delivering limits (queue.stopWaiting waiting) (history ++ []) :=
        delivering.frame rfl rfl rfl rfl rfl
      rw [List.append_nil] at stopped
      exact stopped.attempt result
  | @pollEvent event rest alive first =>
      have removed := (delivering.accounted alive).remove first
      apply Delivering.of_contents
      · rw [admittedEvents_append, ← delivering.contents alive, first]
        simp [notifyAll, release_eq, admittedEvents, polledEvents]
      · exact removed.congr rfl rfl
      · have bounded := delivering.bounded
        rw [first] at bounded
        simp only [notifyAll, release_eq]
        exact Nat.le_of_succ_le bounded
  | pollNothing alive none kind =>
      refine delivering.frame rfl rfl rfl rfl ?_
      rcases kind with rfl | rfl <;> rfl
  | close => exact delivering.frame rfl rfl rfl rfl rfl
  | drop =>
      constructor
      · simpa using delivering.polledPrefix
      · intro alive
        cases alive
      · intro alive
        cases alive
      · exact Nat.zero_le _
  | dropSinks => exact delivering.frame rfl rfl rfl rfl rfl

theorem delivering_initial {limits : EventQueueLimits} :
    Delivering limits (machine limits).initial [] := by
  apply Delivering.of_contents
  · rfl
  · exact ⟨rfl, Or.inl UInt64.zero_le⟩
  · exact Nat.zero_le _

theorem delivering_of_run {limits : EventQueueLimits} {labels : List EventQueueLabel}
    {queue : EventQueue} {history : List EventQueueEntry}
    (runs : (machine limits).run labels = some (queue, history)) :
    Delivering limits queue history := by
  refine (machine limits).run_invariant delivering_initial ?_ runs
  intro queue history label next entries delivering stepped
  exact delivering.step stepped

theorem refused_only_when_unreachable {limits : EventQueueLimits} {queue next : EventQueue}
    {label : EventQueueLabel} {entries : List EventQueueEntry} {event : Event}
    (stepped : queue.step limits label = some (next, entries))
    (refused : .refused event ∈ entries) :
    queue.closed = true ∨ queue.receiverAlive = false := by
  cases transition_of_step stepped with
  | emit result =>
      cases result with
      | refused reason => exact reason
      | waits => cases refused
      | admitted => simp at refused
  | wake member result =>
      cases result with
      | refused reason => exact reason
      | waits => cases refused
      | admitted => simp at refused
  | pollEvent => simp at refused
  | pollNothing => simp at refused
  | close => cases refused
  | drop => cases refused
  | dropSinks => cases refused

/-- In every state of every run: polled events are a prefix of the admitted ones,
an emit gives up only on a closed queue or a lost receiver, the byte counter is the
sum of the queued lengths so that neither subtraction underflows, and both bounds
hold. A receiver that is gone took its buffer with it, so the contents are spoken of
while it lives. -/
theorem run_delivers_and_accounts {limits : EventQueueLimits}
    {labels : List EventQueueLabel} {queue : EventQueue} {history : List EventQueueEntry}
    (runs : (machine limits).run labels = some (queue, history)) :
    polledEvents history <+: admittedEvents history ∧
    (queue.receiverAlive = true →
      polledEvents history ++ queue.queued = admittedEvents history ∧
      queue.queuedBytes.toNat = totalBytes queue.queued ∧
      (queue.queuedBytes ≤ limits.maxQueuedBytes ∨ (withData queue.queued).length = 1) ∧
      (∀ event rest, queue.queued = event :: rest →
        event.data.size ≤ queue.queuedBytes)) ∧
    queue.queued.length ≤ limits.capacity ∧
    (∀ event, queue.exceedsByteLimit limits event = false →
      event.data.size ≤ (queue.reserve event).queuedBytes) ∧
    (∀ label next entries event, queue.step limits label = some (next, entries) →
      .refused event ∈ entries → queue.closed = true ∨ queue.receiverAlive = false) := by
  have delivering := delivering_of_run runs
  refine ⟨delivering.polledPrefix, ?_, delivering.bounded, ?_, ?_⟩
  · intro alive
    have accounted := delivering.accounted alive
    refine ⟨delivering.contents alive, accounted.bytes, accounted.withinLimit, ?_⟩
    intro event rest first
    exact accounted.head_le first
  · intro event fits
    have noWrap := (bytes_after_enqueue fits).1
    rw [reserve_eq, UInt64.le_iff_toNat_le, Bytes.toNat_size]
    show event.data.length ≤ (queue.queuedBytes + event.data.size).toNat
    omega
  · intro label next entries event stepped refused
    exact refused_only_when_unreachable stepped refused

def smallLimits : EventQueueLimits := ⟨1, by decide, 8⟩

def eventOfBytes (bytes : List UInt8) (fits : bytes.length < 2 ^ 63) : Event :=
  { kind := .message, data := ⟨bytes, fits⟩ }

/-- A second producer waits behind a queued event, and gets in after a poll. -/
def backpressureLabels : List EventQueueLabel :=
  let first := eventOfBytes [1, 2, 3] (by decide)
  let second := eventOfBytes [4] (by decide)
  [.emit 0 first .wroteByte, .emit 1 second .wroteByte, .poll,
    .wake ⟨1, second, true⟩ .wroteByte]

theorem run_delivers_and_accounts_under_backpressure :
    ∃ queue history,
      (machine smallLimits).run backpressureLabels = some (queue, history) ∧
      polledEvents history = [eventOfBytes [1, 2, 3] (by decide)] ∧
      admittedEvents history =
        [eventOfBytes [1, 2, 3] (by decide), eventOfBytes [4] (by decide)] ∧
      polledEvents history ++ queue.queued = admittedEvents history ∧
      queue.queuedBytes.toNat = totalBytes queue.queued := by
  have runs : (machine smallLimits).run backpressureLabels =
      some ({ queued := [eventOfBytes [4] (by decide)], notificationPending := true,
              queuedBytes := 1, unreadNotifications := 1 },
        [.admitted (eventOfBytes [1, 2, 3] (by decide)),
          .polled (.event (eventOfBytes [1, 2, 3] (by decide))),
          .admitted (eventOfBytes [4] (by decide))]) := by
    decide
  have accounts := (run_delivers_and_accounts runs).2.1 rfl
  exact ⟨_, _, runs, rfl, rfl, accounts.1, accounts.2.1⟩

end SignalPurple.EventQueue
