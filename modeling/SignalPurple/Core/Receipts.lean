import Mathlib.Data.Finset.Image
import SignalPurple.Core.Presentation
import SignalPurple.Foundation.Machine

/-! # Delivery receipts

The queue of delivery receipts that the actor owes to the senders of messages, and the tasks
that send them. An attempt runs as a task of its own, which outlives the connection that it
was started on; its result is read when the actor is back in its dispatch loop.
-/

namespace SignalPurple

def maxPendingDeliveryReceipts : Nat := 4096

structure DeliveryReceiptIdentity where
  recipient : String
  messageTimestamp : UInt64
  deriving DecidableEq

structure PendingDeliveryReceipt where
  identity : DeliveryReceiptIdentity
  recipient : ServiceId
  sendTimestamp : UInt64
  deriving DecidableEq

inductive DeliveryReceiptState where
  | ready
  | inFlight
  | deferred
  deriving DecidableEq

structure DeliveryReceiptQueue where
  pending : List (PendingDeliveryReceipt × DeliveryReceiptState) := []
  identities : Finset DeliveryReceiptIdentity := ∅
  limitReported : Bool := false
  deriving DecidableEq

namespace DeliveryReceiptQueue

/-- The result says whether the overflow is to be reported. -/
def enqueue (queue : DeliveryReceiptQueue) (recipient : ServiceId)
    (messageTimestamp sendTimestamp : UInt64) : DeliveryReceiptQueue × Bool :=
  let identity : DeliveryReceiptIdentity :=
    { recipient := recipient.serviceIdString, messageTimestamp }
  if identity ∈ queue.identities then (queue, false)
  else if maxPendingDeliveryReceipts ≤ queue.pending.length then
    ({ queue with limitReported := true }, !queue.limitReported)
  else
    ({ queue with
       identities := insert identity queue.identities
       pending := queue.pending ++ [({ identity, recipient, sendTimestamp }, .ready)] }, false)

def startFirst : List (PendingDeliveryReceipt × DeliveryReceiptState) →
    Option (PendingDeliveryReceipt × List (PendingDeliveryReceipt × DeliveryReceiptState))
  | [] => none
  | (receipt, .ready) :: later => some (receipt, (receipt, .inFlight) :: later)
  | entry :: later => (startFirst later).map fun started => (started.1, entry :: started.2)

def startNext (queue : DeliveryReceiptQueue) (sessionReady : Bool) :
    DeliveryReceiptQueue × Option PendingDeliveryReceipt :=
  if !sessionReady then (queue, none)
  else
    match startFirst queue.pending with
    | none => (queue, none)
    | some (receipt, pending) => ({ queue with pending }, some receipt)

def complete (queue : DeliveryReceiptQueue) (identity : DeliveryReceiptIdentity) :
    DeliveryReceiptQueue :=
  if queue.pending.any (·.1.identity == identity) then
    let pending := queue.pending.eraseP (·.1.identity == identity)
    { pending
      identities := queue.identities.erase identity
      limitReported := if pending.length < maxPendingDeliveryReceipts then false
        else queue.limitReported }
  else queue

def setState (identity : DeliveryReceiptIdentity) (state : DeliveryReceiptState) :
    List (PendingDeliveryReceipt × DeliveryReceiptState) →
      List (PendingDeliveryReceipt × DeliveryReceiptState)
  | [] => []
  | entry :: later =>
      if entry.1.identity = identity then (entry.1, state) :: later
      else entry :: setState identity state later

def retry (queue : DeliveryReceiptQueue) (identity : DeliveryReceiptIdentity)
    (immediately : Bool) : DeliveryReceiptQueue :=
  { queue with
    pending := setState identity (if immediately then .ready else .deferred) queue.pending }

def moveAll (queue : DeliveryReceiptQueue) (source target : DeliveryReceiptState) :
    DeliveryReceiptQueue :=
  { queue with
    pending := queue.pending.map fun entry =>
      (entry.1, if entry.2 = source then target else entry.2) }

def activateRetries (queue : DeliveryReceiptQueue) : DeliveryReceiptQueue :=
  queue.moveAll .deferred .ready

def releaseInFlight (queue : DeliveryReceiptQueue) : DeliveryReceiptQueue :=
  queue.moveAll .inFlight .ready

/-! ### What the operations do -/

def receipts (queue : DeliveryReceiptQueue) : List PendingDeliveryReceipt :=
  queue.pending.map Prod.fst

def inFlight (queue : DeliveryReceiptQueue) : List PendingDeliveryReceipt :=
  (queue.pending.filter (·.2 == .inFlight)).map Prod.fst

/-- The identities are those of the entries, each pending once, and the limit is kept. -/
structure Consistent (queue : DeliveryReceiptQueue) : Prop where
  identities : queue.identities = (queue.receipts.map (·.identity)).toFinset
  distinct : (queue.receipts.map (·.identity)).Nodup
  bounded : queue.pending.length ≤ maxPendingDeliveryReceipts

variable {queue : DeliveryReceiptQueue} {receipt : PendingDeliveryReceipt}
  {identity : DeliveryReceiptIdentity}

theorem mem_inFlight : receipt ∈ queue.inFlight ↔ (receipt, .inFlight) ∈ queue.pending := by
  simp [inFlight]

theorem mem_receipts_of_mem_inFlight (flying : receipt ∈ queue.inFlight) :
    receipt ∈ queue.receipts :=
  List.mem_map.mpr ⟨_, mem_inFlight.mp flying, rfl⟩

theorem startFirst_spec {pending started : List (PendingDeliveryReceipt × DeliveryReceiptState)}
    (starts : startFirst pending = some (receipt, started)) :
    started.map Prod.fst = pending.map Prod.fst ∧ receipt ∈ pending.map Prod.fst ∧
      (pending.filter (·.2 == .inFlight) = [] →
        (started.filter (·.2 == .inFlight)).map Prod.fst = [receipt]) := by
  fun_induction startFirst pending generalizing receipt started with
  | case1 => cases starts
  | case2 first later =>
      cases starts
      refine ⟨rfl, by simp, ?_⟩
      intro idle
      have idleLater : later.filter (·.2 == .inFlight) = [] := idle
      simp [idleLater]
  | case3 entry later notReady induction =>
      rcases Option.map_eq_some_iff.mp starts with ⟨⟨found, rest⟩, isRest, same⟩
      cases same
      have ⟨sameReceipts, member, flying⟩ := induction isRest
      refine ⟨by simp [sameReceipts], by simp [member], ?_⟩
      intro idle
      rw [List.filter_cons] at idle
      split at idle
      next => cases idle
      next notFlying => simpa [List.filter_cons, notFlying] using flying idle

theorem startNext_spec {sessionReady : Bool} {next : DeliveryReceiptQueue}
    {started : Option PendingDeliveryReceipt}
    (starts : queue.startNext sessionReady = (next, started)) (idle : queue.inFlight = []) :
    next.receipts = queue.receipts ∧ next.identities = queue.identities ∧
      next.limitReported = queue.limitReported ∧ next.inFlight = started.toList ∧
      ∀ receipt ∈ started, receipt ∈ queue.receipts := by
  unfold startNext at starts
  split at starts
  next =>
    cases starts
    exact ⟨rfl, rfl, rfl, idle, by simp⟩
  next =>
    split at starts
    next =>
      cases starts
      exact ⟨rfl, rfl, rfl, idle, by simp⟩
    next receipt pending isStarted =>
      cases starts
      have ⟨sameReceipts, member, flying⟩ := startFirst_spec isStarted
      refine ⟨sameReceipts, rfl, rfl, flying (List.map_eq_nil_iff.mp idle), ?_⟩
      rintro found ⟨⟩
      exact member

theorem setState_eq_map {pending : List (PendingDeliveryReceipt × DeliveryReceiptState)}
    (distinct : ((pending.map Prod.fst).map (·.identity)).Nodup) (state : DeliveryReceiptState) :
    setState identity state pending =
      pending.map fun entry => if entry.1.identity = identity then (entry.1, state) else entry := by
  induction pending with
  | nil => rfl
  | cons entry later induction =>
      simp only [List.map_cons, List.nodup_cons] at distinct
      unfold setState
      split
      next isIt =>
        have others : later.map (fun other =>
            if other.1.identity = identity then (other.1, state) else other) = later := by
          rw [List.map_congr_left, List.map_id']
          intro other member
          refine if_neg fun same => distinct.1 ?_
          rw [isIt, ← same]
          exact List.mem_map_of_mem (List.mem_map_of_mem member)
        rw [List.map_cons, if_pos isIt, others]
      next isOther => rw [List.map_cons, if_neg isOther, induction distinct.2]

theorem eraseP_eq_filter {pending : List (PendingDeliveryReceipt × DeliveryReceiptState)}
    (distinct : ((pending.map Prod.fst).map (·.identity)).Nodup) :
    pending.eraseP (·.1.identity == identity) =
      pending.filter fun entry => !(entry.1.identity == identity) := by
  induction pending with
  | nil => rfl
  | cons entry later induction =>
      simp only [List.map_cons, List.nodup_cons] at distinct
      by_cases isIt : entry.1.identity = identity
      · have others : later.filter (fun other => !(other.1.identity == identity)) = later := by
          rw [List.filter_eq_self]
          intro other member
          have differs : other.1.identity ≠ identity := by
            intro same
            rw [isIt, ← same] at distinct
            exact distinct.1 (List.mem_map_of_mem (List.mem_map_of_mem member))
          simpa using differs
        simp [isIt, others]
      · simp [isIt, induction distinct.2]

theorem pending_complete (consistent : queue.Consistent) :
    (queue.complete identity).pending =
      queue.pending.filter fun entry => !(entry.1.identity == identity) := by
  unfold complete
  split
  next => exact eraseP_eq_filter consistent.distinct
  next absent =>
    symm
    rw [List.filter_eq_self]
    intro entry inQueue
    cases isIt : entry.1.identity == identity with
    | false => rfl
    | true => exact absurd (List.any_eq_true.mpr ⟨entry, inQueue, isIt⟩) absent

theorem receipts_complete (consistent : queue.Consistent) :
    (queue.complete identity).receipts =
      queue.receipts.filter fun receipt => !(receipt.identity == identity) := by
  rw [receipts, pending_complete consistent, receipts, List.filter_map]
  rfl

theorem inFlight_complete (consistent : queue.Consistent) :
    (queue.complete identity).inFlight =
      queue.inFlight.filter fun receipt => !(receipt.identity == identity) := by
  rw [inFlight, pending_complete consistent, inFlight, List.filter_map, List.filter_filter,
    List.filter_filter]
  simp only [Function.comp_apply, Bool.and_comm]

theorem Consistent.complete (consistent : queue.Consistent)
    (identity : DeliveryReceiptIdentity) : (queue.complete identity).Consistent where
  identities := by
    by_cases present : queue.pending.any (·.1.identity == identity) = true
    · rw [receipts_complete consistent, DeliveryReceiptQueue.complete, if_pos present]
      simp only [consistent.identities]
      ext other
      simp only [Finset.mem_erase, List.mem_toFinset, List.mem_map, List.mem_filter]
      constructor
      · rintro ⟨differs, receipt, member, rfl⟩
        exact ⟨receipt, ⟨member, by simpa using differs⟩, rfl⟩
      · rintro ⟨receipt, ⟨member, differs⟩, rfl⟩
        exact ⟨by simpa using differs, receipt, member, rfl⟩
    · have unchanged : queue.complete identity = queue := if_neg present
      rw [unchanged]
      exact consistent.identities
  distinct := by
    rw [receipts_complete consistent]
    exact consistent.distinct.sublist (List.filter_sublist.map _)
  bounded := by
    unfold DeliveryReceiptQueue.complete
    split
    · exact Nat.le_trans (List.eraseP_sublist.length_le) consistent.bounded
    · exact consistent.bounded

theorem receipts_retry (consistent : queue.Consistent) (immediately : Bool) :
    (queue.retry identity immediately).receipts = queue.receipts := by
  unfold retry receipts
  rw [setState_eq_map consistent.distinct, List.map_map]
  apply List.map_congr_left
  intro entry _
  simp only [Function.comp_apply]
  split <;> rfl

theorem inFlight_retry (consistent : queue.Consistent) (immediately : Bool) :
    (queue.retry identity immediately).inFlight =
      queue.inFlight.filter fun receipt => !(receipt.identity == identity) := by
  have grounded : (if immediately then DeliveryReceiptState.ready else .deferred) ≠ .inFlight := by
    split <;> simp
  unfold retry inFlight
  rw [setState_eq_map consistent.distinct]
  generalize (if immediately then DeliveryReceiptState.ready else .deferred) = state at grounded
  clear consistent
  induction queue.pending with
  | nil => rfl
  | cons entry later rest =>
      by_cases isIt : entry.1.identity = identity
      · by_cases flies : entry.2 = .inFlight
        · simpa [isIt, grounded, flies] using rest
        · simpa [isIt, grounded, flies] using rest
      · by_cases flies : entry.2 = .inFlight
        · simpa [isIt, flies] using rest
        · simpa [isIt, flies] using rest

theorem receipts_moveAll (source target : DeliveryReceiptState) :
    (queue.moveAll source target).receipts = queue.receipts := by
  unfold moveAll receipts
  rw [List.map_map]
  rfl

theorem inFlight_activateRetries : queue.activateRetries.inFlight = queue.inFlight := by
  unfold activateRetries moveAll inFlight
  rw [List.filter_map, List.map_map]
  apply congrArg (List.map _)
  apply List.filter_congr
  intro entry _
  cases state : entry.2 <;> simp [state]

theorem inFlight_releaseInFlight : queue.releaseInFlight.inFlight = [] := by
  unfold releaseInFlight moveAll inFlight
  rw [List.map_eq_nil_iff, List.filter_eq_nil_iff]
  intro entry member
  rcases List.mem_map.mp member with ⟨⟨receipt, state⟩, _, rfl⟩
  cases state <;> simp

theorem enqueue_cases (consistent : queue.Consistent) (recipient : ServiceId)
    (messageTimestamp sendTimestamp : UInt64) :
    queue.enqueue recipient messageTimestamp sendTimestamp = (queue, false) ∨
    queue.enqueue recipient messageTimestamp sendTimestamp =
      ({ queue with limitReported := true }, !queue.limitReported) ∨
    ∃ receipt next, receipt.sendTimestamp = sendTimestamp ∧
      queue.enqueue recipient messageTimestamp sendTimestamp = (next, false) ∧
      receipt ∉ queue.receipts ∧ next.receipts = queue.receipts ++ [receipt] ∧
      next.inFlight = queue.inFlight ∧ next.limitReported = queue.limitReported ∧
      next.Consistent := by
  by_cases fresh : (⟨recipient.serviceIdString, messageTimestamp⟩ : DeliveryReceiptIdentity) ∈
      queue.identities
  case pos => exact Or.inl (by simp only [enqueue, if_pos fresh])
  by_cases full : maxPendingDeliveryReceipts ≤ queue.pending.length
  case pos => exact Or.inr (Or.inl (by simp only [enqueue, if_neg fresh, if_pos full]))
  have notListed : (⟨recipient.serviceIdString, messageTimestamp⟩ : DeliveryReceiptIdentity) ∉
      queue.receipts.map (·.identity) := by
    rwa [consistent.identities, List.mem_toFinset] at fresh
  refine Or.inr (Or.inr ⟨⟨⟨recipient.serviceIdString, messageTimestamp⟩, recipient,
    sendTimestamp⟩, (queue.enqueue recipient messageTimestamp sendTimestamp).1, rfl, ?_⟩)
  simp only [enqueue, if_neg fresh, if_neg full]
  refine ⟨trivial, ?_, by simp [receipts], by simp [inFlight], trivial, ?_, ?_, ?_⟩
  · intro member
    exact notListed (List.mem_map_of_mem member)
  · ext identity
    simp [consistent.identities, receipts, eq_comm]
  · simpa [receipts, List.concat_eq_append] using consistent.distinct.concat notListed
  · rw [List.length_append]
    exact Nat.not_le.mp full

theorem Consistent.of_receipts {next : DeliveryReceiptQueue} (consistent : queue.Consistent)
    (sameReceipts : next.receipts = queue.receipts)
    (sameIdentities : next.identities = queue.identities) : next.Consistent where
  identities := by rw [sameIdentities, sameReceipts, consistent.identities]
  distinct := sameReceipts ▸ consistent.distinct
  bounded := by
    have sameLength := congrArg List.length sameReceipts
    simp only [receipts, List.length_map] at sameLength
    exact sameLength ▸ consistent.bounded

end DeliveryReceiptQueue

/-! ## Attempts -/

/-- An error of the service, as far as the actor tells errors apart. -/
structure ReceiptFailure where
  isTransient : Bool
  closedWebsocket : Bool
  text : String
  deriving DecidableEq

inductive DeliveryReceiptFailureAction where
  | retry
  | recover
  | discard
  deriving DecidableEq

def deliveryReceiptFailureAction (failure : ReceiptFailure) : DeliveryReceiptFailureAction :=
  if !failure.isTransient then .discard
  else if failure.closedWebsocket then .recover
  else .retry

inductive ReceiptResult where
  | sent
  | failed (failure : ReceiptFailure)
  deriving DecidableEq

def ReceiptResult.isFinal : ReceiptResult → Bool
  | .sent => true
  | .failed failure => deliveryReceiptFailureAction failure == .discard

structure ReceiptTask where
  generation : UInt64
  receipt : PendingDeliveryReceipt
  /-- How many receptions had been started when the attempt was. The code only has the
  generation, which wraps. -/
  reception : Nat
  deriving DecidableEq

/-- What is left of the queue, the reason to recover if there is one, and the events. -/
def finishDeliveryReceiptAttempt (queue : DeliveryReceiptQueue) (receipt : PendingDeliveryReceipt) :
    ReceiptResult → DeliveryReceiptQueue × Option String × List Event
  | .sent => (queue.complete receipt.identity, none, [])
  | .failed failure =>
      match deliveryReceiptFailureAction failure with
      | .retry => (queue.retry receipt.identity false, none, [])
      | .recover =>
          (queue.retry receipt.identity true,
            some ("Signal websocket closed while sending a delivery receipt: " ++ failure.text), [])
      | .discard =>
          (queue.complete receipt.identity, none,
            [Event.error ("Could not send a Signal delivery receipt: " ++ failure.text) false])

theorem finishDeliveryReceiptAttempt_cases (queue : DeliveryReceiptQueue)
    (receipt : PendingDeliveryReceipt) (result : ReceiptResult) :
    (result.isFinal = true ∧ ∃ events, finishDeliveryReceiptAttempt queue receipt result =
      (queue.complete receipt.identity, none, events)) ∨
    ∃ immediately reason, finishDeliveryReceiptAttempt queue receipt result =
      (queue.retry receipt.identity immediately, reason, []) := by
  cases result with
  | sent => exact Or.inl ⟨rfl, [], rfl⟩
  | failed failure =>
      cases action : deliveryReceiptFailureAction failure with
      | retry => exact Or.inr ⟨false, none, by simp only [finishDeliveryReceiptAttempt, action]⟩
      | recover =>
          refine Or.inr ⟨true, some ("Signal websocket closed while sending a delivery receipt: " ++
            failure.text), ?_⟩
          simp only [finishDeliveryReceiptAttempt, action]
      | discard =>
          refine Or.inl ⟨by simp [ReceiptResult.isFinal, action],
            [Event.error ("Could not send a Signal delivery receipt: " ++ failure.text) false], ?_⟩
          simp only [finishDeliveryReceiptAttempt, action]

/-! ## The actor -/

structure ReceiptRun where
  queue : DeliveryReceiptQueue := {}
  tasks : List ReceiptTask := []
  receiveGeneration : UInt64 := 0
  receptions : Nat := 0
  /-- The session is ready and the actor in its dispatch loop. -/
  dispatching : Bool := false
  stopped : Bool := false
  deriving DecidableEq

inductive ReceiptLabel where
  /-- A content is projected; the allocator gives the time at which a receipt would be sent. -/
  | content (content : Content) (sendTimestamp : UInt64)
  /-- The dispatch loop begins a round. -/
  | dispatch
  | completed (task : Nat) (result : ReceiptResult)
  | workerStopped (task : Nat) (error : String)
  | retryTick
  /-- The connection is lost for another reason. -/
  | recover
  /-- The reception has started again and the startup phases are over. -/
  | receptionStarted
  /-- The cleanup may be given up before the attempts have ended. -/
  | shutdown (inTime : Bool)
  deriving DecidableEq

inductive ReceiptEntry where
  /-- An entry is new in the queue; the time is the one just given by the allocator, if any. -/
  | queued (receipt : PendingDeliveryReceipt) (assigned : Option UInt64)
  | overflow
  | attempted (task : ReceiptTask)
  /-- An entry is gone from the queue; the attempt is the one just joined, if any. -/
  | removed (receipt : PendingDeliveryReceipt) (joined : Option (ReceiptTask × ReceiptResult))
  /-- The dispatch loop ends because of an attempt. -/
  | recovers (task : ReceiptTask) (receiveGeneration : UInt64) (receptions : Nat)
  | emitted (event : Event)
  deriving DecidableEq

namespace ReceiptRun

/-- `handle_content`, as far as it is about receipts. -/
def handleContent (run : ReceiptRun) (content : Content) (sendTimestamp : UInt64) :
    ReceiptRun × List ReceiptEntry :=
  match content.body with
  | .dataMessage _ =>
      if content.metadata.needsReceipt then
        let queued := run.queue.enqueue content.metadata.sender (contentTimestamp content)
          sendTimestamp
        ({ run with queue := queued.1 },
          if queued.2 then
            [.overflow, .emitted (Event.transientError
              "Signal delivery-receipt backlog limit reached; excess receipts were discarded")]
          else [])
      else (run, [])
  | _ => (run, [])

/-- An attempt is started while none is running. -/
def startReceipt (run : ReceiptRun) : ReceiptRun × List ReceiptEntry :=
  if run.tasks.isEmpty then
    match run.queue.startNext run.dispatching with
    | (queue, none) => ({ run with queue }, [])
    | (queue, some receipt) =>
        let task : ReceiptTask :=
          { generation := run.receiveGeneration, receipt, reception := run.receptions }
        ({ run with queue, tasks := run.tasks ++ [task] }, [.attempted task])
  else (run, [])

def finishReceipt (run : ReceiptRun) (task : ReceiptTask) (result : ReceiptResult) :
    ReceiptRun × List ReceiptEntry :=
  match finishDeliveryReceiptAttempt run.queue task.receipt result with
  | (queue, some _, events) =>
      if task.generation = run.receiveGeneration then
        ({ run with queue, dispatching := false },
          events.map .emitted ++ [.recovers task run.receiveGeneration run.receptions])
      else ({ run with queue }, events.map .emitted)
  | (queue, none, events) => ({ run with queue }, events.map .emitted)

def workerStopped (run : ReceiptRun) (error : String) : ReceiptRun × List ReceiptEntry :=
  ({ run with queue := run.queue.releaseInFlight },
    [.emitted (Event.error
      ("Signal delivery receipt worker stopped unexpectedly: " ++ error) false)])

/-- `wrapping_add(1).max(1)`. -/
def nextGeneration (generation : UInt64) : UInt64 := max (generation + 1) 1

/-- What one label does, without a word about entries that come and go. -/
def act (run : ReceiptRun) : ReceiptLabel → Option (ReceiptRun × List ReceiptEntry)
  | .content content sendTimestamp =>
      if run.dispatching then some (run.handleContent content sendTimestamp) else none
  | .dispatch => if run.dispatching then some run.startReceipt else none
  | .completed task result =>
      match run.dispatching, run.tasks[task]? with
      | true, some joined =>
          some ({ run with tasks := run.tasks.eraseIdx task }.finishReceipt joined result)
      | _, _ => none
  | .workerStopped task error =>
      if run.dispatching && decide (task < run.tasks.length) then
        some ({ run with tasks := run.tasks.eraseIdx task }.workerStopped error)
      else none
  | .retryTick =>
      if run.dispatching then some ({ run with queue := run.queue.activateRetries }, []) else none
  | .recover => if run.dispatching then some ({ run with dispatching := false }, []) else none
  | .receptionStarted =>
      if run.dispatching || run.stopped then none
      else
        some ({ run with
          receiveGeneration := nextGeneration run.receiveGeneration
          receptions := run.receptions + 1
          queue := run.queue.activateRetries
          dispatching := true }, [])
  | .shutdown inTime =>
      if run.stopped then none
      else
        let stopped := { run with dispatching := false, stopped := true }
        if inTime then
          some ({ stopped with tasks := [], queue := run.queue.releaseInFlight }, [])
        else some (stopped, [])

def receipts (run : ReceiptRun) : List PendingDeliveryReceipt := run.queue.receipts

def assigned : ReceiptLabel → Option UInt64
  | .content _ sendTimestamp => some sendTimestamp
  | _ => none

def joined (run : ReceiptRun) : ReceiptLabel → Option (ReceiptTask × ReceiptResult)
  | .completed task result => run.tasks[task]?.map fun ended => (ended, result)
  | _ => none

/-- What an observer of the queue sees when it changes. -/
def changes (before after : ReceiptRun) (label : ReceiptLabel) : List ReceiptEntry :=
  (after.receipts.filter (· ∉ before.receipts)).map (.queued · (assigned label)) ++
    (before.receipts.filter (· ∉ after.receipts)).map (.removed · (before.joined label))

def step (run : ReceiptRun) (label : ReceiptLabel) : Option (ReceiptRun × List ReceiptEntry) :=
  match run.act label with
  | none => none
  | some (next, entries) => some (next, entries ++ run.changes next label)

def machine : Machine ReceiptRun ReceiptLabel ReceiptEntry where
  initial := {}
  step := step

end ReceiptRun

end SignalPurple
