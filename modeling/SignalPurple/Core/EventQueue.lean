import SignalPurple.Core.Event
import SignalPurple.Foundation.Machine
import SignalPurple.Foundation.Words

/-! # The bounded event queue

`event_queue.rs` as a machine. One step is one critical section of the `serial`
mutex: a producer's pass through the body of `emit` up to its return or its
condition-variable wait, a `poll`, or a `close`. A waiting producer may wake at
any time, notified or not, and then repeats the body.
-/

namespace SignalPurple

/-- The two bounds of a queue that `event_queue_with_byte_limit` accepted. -/
structure EventQueueLimits where
  capacity : Nat
  capacityPositive : 0 < capacity
  maxQueuedBytes : UInt64

def maxQueuedEventBytes : UInt64 := 64 * 1024 * 1024

def eventQueueWithByteLimit (capacity : Nat) (maxQueuedBytes : UInt64) :
    Except String EventQueueLimits :=
  if positive : 0 < capacity then
    .ok { capacity, capacityPositive := positive, maxQueuedBytes }
  else
    .error "event queue capacity must be positive"

def eventQueue (capacity : Nat) : Except String EventQueueLimits :=
  eventQueueWithByteLimit capacity maxQueuedEventBytes

/-- A thread inside `space_available.wait`, with the event it still holds. -/
structure WaitingProducer where
  producer : Nat
  event : Event
  notified : Bool
  deriving DecidableEq

/-- The channel, the shared `EventQueueState` and the notifier socket. -/
structure EventQueue where
  queued : List Event := []
  receiverAlive : Bool := true
  sinksAlive : Bool := true
  notificationPending : Bool := false
  closed : Bool := false
  queuedBytes : UInt64 := 0
  waitingProducers : List WaitingProducer := []
  unreadNotifications : Nat := 0
  deriving DecidableEq

/-- How the one-byte write to the notifier socket ended. -/
inductive NotifierWrite where
  | wroteByte
  | wroteNothing
  | wouldBlock
  | failed
  deriving DecidableEq

inductive EventPoll where
  | event (event : Event)
  | empty
  | disconnected
  deriving DecidableEq

inductive TrySend where
  | sent (queue : EventQueue)
  | full
  | disconnected

/-- How one pass through the loop of `emit` ends. -/
inductive EmitOutcome where
  | admitted
  | refused
  | waits
  deriving DecidableEq

namespace EventQueue

def notifyLocked (queue : EventQueue) (write : NotifierWrite) : EventQueue :=
  if queue.notificationPending then queue
  else
    match write with
    | .wroteByte =>
        { queue with
          notificationPending := true
          unreadNotifications := queue.unreadNotifications + 1 }
    | .wouldBlock => { queue with notificationPending := true }
    | .wroteNothing | .failed => { queue with notificationPending := false }

def trySend (limits : EventQueueLimits) (queue : EventQueue) (event : Event) :
    TrySend :=
  if !queue.receiverAlive then .disconnected
  else if queue.queued.length < limits.capacity then
    .sent { queue with queued := queue.queued ++ [event] }
  else .full

/-- The byte limit turns an event away, unless no bytes are queued at all. -/
def exceedsByteLimit (limits : EventQueueLimits) (queue : EventQueue)
    (event : Event) : Bool :=
  queue.queuedBytes != 0 &&
    match Words.checkedAdd queue.queuedBytes event.data.size with
    | none => true
    | some total => decide (limits.maxQueuedBytes < total)

def reserve (queue : EventQueue) (event : Event) : EventQueue :=
  if 0 < event.data.length then
    { queue with queuedBytes := queue.queuedBytes + event.data.size }
  else queue

def release (queue : EventQueue) (event : Event) : EventQueue :=
  if 0 < event.data.length then
    { queue with queuedBytes := queue.queuedBytes - event.data.size }
  else queue

/-- One pass through the loop of `emit`, under the mutex. -/
def emitLocked (limits : EventQueueLimits) (queue : EventQueue) (event : Event)
    (write : NotifierWrite) : EventQueue × EmitOutcome :=
  if queue.closed then (queue, .refused)
  else if queue.exceedsByteLimit limits event then (queue, .waits)
  else
    let reserved := queue.reserve event
    match reserved.trySend limits event with
    | .sent sent => (sent.notifyLocked write, .admitted)
    | .full => (reserved.release event, .waits)
    | .disconnected => (reserved.release event, .refused)

def notifyAll (queue : EventQueue) : EventQueue :=
  { queue with
    waitingProducers := queue.waitingProducers.map
      fun waiting => { waiting with notified := true } }

def close (queue : EventQueue) : EventQueue :=
  notifyAll { queue with closed := true }

/-- Reads of at most 64 bytes each; every one that finds a byte removes one. -/
def drainReads : Nat → Nat → Nat
  | 0, unread => unread
  | reads + 1, unread => drainReads reads (unread - 64)

def drainNotification (unread : Nat) : Nat := drainReads unread unread

def poll (queue : EventQueue) : EventQueue × EventPoll :=
  match queue.queued with
  | event :: rest =>
      (notifyAll (release { queue with queued := rest } event), .event event)
  | [] =>
      ({ queue with
         unreadNotifications := drainNotification queue.unreadNotifications
         notificationPending := false },
       if queue.sinksAlive then .empty else .disconnected)

/-- `Drop for EventQueue`: close, then the receiving half goes with its buffer. -/
def drop (queue : EventQueue) : EventQueue :=
  { queue.close with receiverAlive := false, queued := [] }

def isWaiting (queue : EventQueue) (producer : Nat) : Bool :=
  queue.waitingProducers.any fun waiting => waiting.producer == producer

end EventQueue

inductive EventQueueLabel where
  | emit (producer : Nat) (event : Event) (write : NotifierWrite)
  | wake (waiting : WaitingProducer) (write : NotifierWrite)
  | poll
  | close
  | drop
  | dropSinks

inductive EventQueueEntry where
  | admitted (event : Event)
  | refused (event : Event)
  | polled (result : EventPoll)
  deriving DecidableEq

namespace EventQueue

def startWaiting (queue : EventQueue) (producer : Nat) (event : Event) : EventQueue :=
  { queue with
    waitingProducers := queue.waitingProducers ++ [⟨producer, event, false⟩] }

def stopWaiting (queue : EventQueue) (waiting : WaitingProducer) : EventQueue :=
  { queue with waitingProducers := queue.waitingProducers.erase waiting }

/-- A producer's critical section: return, or start to wait with the event. -/
def attempt (limits : EventQueueLimits) (queue : EventQueue) (producer : Nat)
    (event : Event) (write : NotifierWrite) : EventQueue × List EventQueueEntry :=
  match queue.emitLocked limits event write with
  | (next, .admitted) => (next, [.admitted event])
  | (next, .refused) => (next, [.refused event])
  | (next, .waits) => (next.startWaiting producer event, [])

def step (limits : EventQueueLimits) (queue : EventQueue) :
    EventQueueLabel → Option (EventQueue × List EventQueueEntry)
  | .emit producer event write =>
      -- A sink in use is alive, and a thread inside `wait` makes no other call.
      if queue.sinksAlive && !queue.isWaiting producer then
        some (queue.attempt limits producer event write)
      else none
  | .wake waiting write =>
      if waiting ∈ queue.waitingProducers then
        some ((queue.stopWaiting waiting).attempt limits waiting.producer waiting.event
          write)
      else none
  | .poll =>
      if queue.receiverAlive then some (queue.poll.1, [.polled queue.poll.2]) else none
  | .close => if queue.receiverAlive then some (queue.close, []) else none
  | .drop => if queue.receiverAlive then some (queue.drop, []) else none
  | .dropSinks =>
      if queue.waitingProducers = [] then some ({ queue with sinksAlive := false }, [])
      else none

def machine (limits : EventQueueLimits) :
    Machine EventQueue EventQueueLabel EventQueueEntry where
  initial := {}
  step := EventQueue.step limits

/-! ## What one step can do -/

theorem reserve_eq (queue : EventQueue) (event : Event) :
    queue.reserve event =
      { queue with queuedBytes := queue.queuedBytes + event.data.size } := by
  unfold reserve
  split
  next => rfl
  next isEmpty =>
    have noBytes : event.data.size = 0 := by
      simp [Bytes.size, Nat.eq_zero_of_not_pos isEmpty]
    simp [noBytes]

theorem release_eq (queue : EventQueue) (event : Event) :
    queue.release event =
      { queue with queuedBytes := queue.queuedBytes - event.data.size } := by
  unfold release
  split
  next => rfl
  next isEmpty =>
    have noBytes : event.data.size = 0 := by
      simp [Bytes.size, Nat.eq_zero_of_not_pos isEmpty]
    simp [noBytes]

/-- A reservation that is undone leaves no trace, whichever branch undoes it. -/
@[simp] theorem release_reserve (queue : EventQueue) (event : Event) :
    (queue.reserve event).release event = queue := by
  rw [reserve_eq, release_eq]
  simp

def enqueue (queue : EventQueue) (event : Event) : EventQueue :=
  { queue with
    queued := queue.queued ++ [event]
    queuedBytes := queue.queuedBytes + event.data.size }

inductive Attempt (limits : EventQueueLimits) (queue : EventQueue) (producer : Nat)
    (event : Event) (write : NotifierWrite) :
    EventQueue → List EventQueueEntry → Prop
  | refused (reason : queue.closed = true ∨ queue.receiverAlive = false) :
      Attempt limits queue producer event write queue [.refused event]
  | waits (opened : queue.closed = false)
      (blocked : queue.queuedBytes ≠ 0 ∨ limits.capacity ≤ queue.queued.length) :
      Attempt limits queue producer event write (queue.startWaiting producer event) []
  | admitted (opened : queue.closed = false) (alive : queue.receiverAlive = true)
      (room : queue.queued.length < limits.capacity)
      (fits : queue.exceedsByteLimit limits event = false) :
      Attempt limits queue producer event write
        ((queue.enqueue event).notifyLocked write) [.admitted event]

theorem trySend_reserve (limits : EventQueueLimits) (queue : EventQueue) (event : Event) :
    (queue.reserve event).trySend limits event =
      if !queue.receiverAlive then .disconnected
      else if queue.queued.length < limits.capacity then .sent (queue.enqueue event)
      else .full := by
  rw [reserve_eq]
  rfl

theorem emitLocked_cases (limits : EventQueueLimits) (queue : EventQueue)
    (event : Event) (write : NotifierWrite) :
    (queue.emitLocked limits event write = (queue, .refused) ∧
      (queue.closed = true ∨ queue.receiverAlive = false)) ∨
    (queue.emitLocked limits event write = (queue, .waits) ∧ queue.closed = false ∧
      (queue.queuedBytes ≠ 0 ∨ limits.capacity ≤ queue.queued.length)) ∨
    (queue.emitLocked limits event write =
        ((queue.enqueue event).notifyLocked write, .admitted) ∧
      queue.closed = false ∧ queue.receiverAlive = true ∧
      queue.queued.length < limits.capacity ∧
      queue.exceedsByteLimit limits event = false) := by
  by_cases closed : queue.closed = true
  · exact Or.inl ⟨by simp [emitLocked, closed], Or.inl closed⟩
  have opened : queue.closed = false := by simpa using closed
  by_cases exceeds : queue.exceedsByteLimit limits event = true
  · have someBytes : queue.queuedBytes ≠ 0 := by
      intro none
      simp [exceedsByteLimit, none] at exceeds
    exact Or.inr (Or.inl ⟨by simp [emitLocked, opened, exceeds], opened, Or.inl someBytes⟩)
  have fits : queue.exceedsByteLimit limits event = false := by simpa using exceeds
  have sends := queue.trySend_reserve limits event
  by_cases alive : queue.receiverAlive = true
  · by_cases room : queue.queued.length < limits.capacity
    · simp only [alive, room, Bool.not_true, Bool.false_eq_true, ↓reduceIte] at sends
      exact Or.inr (Or.inr ⟨by simp [emitLocked, opened, fits, sends], opened, alive, room, fits⟩)
    · simp only [alive, room, Bool.not_true, Bool.false_eq_true, ↓reduceIte] at sends
      exact Or.inr (Or.inl ⟨by simp [emitLocked, opened, fits, sends], opened,
        Or.inr (Nat.le_of_not_lt room)⟩)
  · have gone : queue.receiverAlive = false := by simpa using alive
    simp only [gone, Bool.not_false, ↓reduceIte] at sends
    exact Or.inl ⟨by simp [emitLocked, opened, fits, sends], Or.inr gone⟩

theorem attempt_spec (limits : EventQueueLimits) (queue : EventQueue) (producer : Nat)
    (event : Event) (write : NotifierWrite) :
    Attempt limits queue producer event write
      (queue.attempt limits producer event write).1
      (queue.attempt limits producer event write).2 := by
  unfold attempt
  rcases queue.emitLocked_cases limits event write with
    ⟨equal, reason⟩ | ⟨equal, opened, blocked⟩ | ⟨equal, opened, alive, room, fits⟩
  · rw [equal]
    exact Attempt.refused reason
  · rw [equal]
    exact Attempt.waits opened blocked
  · rw [equal]
    exact Attempt.admitted opened alive room fits

inductive Transition (limits : EventQueueLimits) (queue : EventQueue) :
    EventQueueLabel → EventQueue → List EventQueueEntry → Prop
  | emit {producer event write next entries}
      (result : Attempt limits queue producer event write next entries) :
      Transition limits queue (.emit producer event write) next entries
  | wake {waiting write next entries} (member : waiting ∈ queue.waitingProducers)
      (result : Attempt limits (queue.stopWaiting waiting) waiting.producer waiting.event
        write next entries) :
      Transition limits queue (.wake waiting write) next entries
  | pollEvent {event rest} (alive : queue.receiverAlive = true)
      (first : queue.queued = event :: rest) :
      Transition limits queue .poll
        (notifyAll (release { queue with queued := rest } event)) [.polled (.event event)]
  | pollNothing {result} (alive : queue.receiverAlive = true) (none : queue.queued = [])
      (kind : result = .empty ∨ result = .disconnected) :
      Transition limits queue .poll
        { queue with unreadNotifications := 0, notificationPending := false }
        [.polled result]
  | close (alive : queue.receiverAlive = true) :
      Transition limits queue .close queue.close []
  | drop (alive : queue.receiverAlive = true) :
      Transition limits queue .drop queue.drop []
  | dropSinks (idle : queue.waitingProducers = []) :
      Transition limits queue .dropSinks { queue with sinksAlive := false } []

theorem drainReads_eq (reads unread : Nat) :
    drainReads reads unread = unread - 64 * reads := by
  induction reads generalizing unread with
  | zero => rfl
  | succ reads induction =>
      rw [drainReads, induction]
      omega

@[simp] theorem drainNotification_eq_zero (unread : Nat) : drainNotification unread = 0 := by
  rw [drainNotification, drainReads_eq]
  omega

theorem transition_of_poll {limits : EventQueueLimits} {queue : EventQueue}
    (alive : queue.receiverAlive = true) :
    Transition limits queue .poll queue.poll.1 [.polled queue.poll.2] := by
  unfold poll
  split
  next event rest first =>
    exact Transition.pollEvent alive first
  next none =>
    rw [drainNotification_eq_zero]
    refine Transition.pollNothing alive none ?_
    cases queue.sinksAlive <;> simp

theorem transition_of_step {limits : EventQueueLimits} {queue next : EventQueue}
    {label : EventQueueLabel} {entries : List EventQueueEntry}
    (stepped : queue.step limits label = some (next, entries)) :
    Transition limits queue label next entries := by
  cases label with
  | emit producer event write =>
      simp only [step, Option.ite_none_right_eq_some, Option.some.injEq] at stepped
      have result := queue.attempt_spec limits producer event write
      rw [stepped.2] at result
      exact Transition.emit result
  | wake waiting write =>
      simp only [step, Option.ite_none_right_eq_some, Option.some.injEq] at stepped
      have result := (queue.stopWaiting waiting).attempt_spec limits waiting.producer
        waiting.event write
      rw [stepped.2] at result
      exact Transition.wake stepped.1 result
  | poll =>
      simp only [step, Option.ite_none_right_eq_some, Option.some.injEq,
        Prod.mk.injEq] at stepped
      rcases stepped with ⟨alive, rfl, rfl⟩
      exact transition_of_poll alive
  | close =>
      simp only [step, Option.ite_none_right_eq_some, Option.some.injEq,
        Prod.mk.injEq] at stepped
      rcases stepped with ⟨alive, rfl, rfl⟩
      exact Transition.close alive
  | drop =>
      simp only [step, Option.ite_none_right_eq_some, Option.some.injEq,
        Prod.mk.injEq] at stepped
      rcases stepped with ⟨alive, rfl, rfl⟩
      exact Transition.drop alive
  | dropSinks =>
      simp only [step, Option.ite_none_right_eq_some, Option.some.injEq,
        Prod.mk.injEq] at stepped
      rcases stepped with ⟨idle, rfl, rfl⟩
      exact Transition.dropSinks idle

end EventQueue

end SignalPurple
