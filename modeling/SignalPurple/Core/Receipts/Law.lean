import SignalPurple.Core.Receipts
import SignalPurple.Foundation.History

/-! # The law of the delivery receipts

The queue, its set of identities, the states of its entries and the running attempts agree
after every step. What an observer sees of the queue determines it: an entry is pending
exactly when it was queued and its identity has not been removed since.
-/

namespace SignalPurple

namespace ReceiptEntry

def Removes (identity : DeliveryReceiptIdentity) : ReceiptEntry → Prop
  | .removed receipt _ => receipt.identity = identity
  | _ => False

def IsRemoval : ReceiptEntry → Prop
  | .removed _ _ => True
  | _ => False

def OfAttempts : ReceiptEntry → Prop
  | .queued _ _ | .removed _ _ => False
  | _ => True

end ReceiptEntry

namespace ReceiptRun

/-- The receipt was queued with the time it carries, and its identity not removed since. -/
def Owed (history : List ReceiptEntry) (receipt : PendingDeliveryReceipt) : Prop :=
  History.Since (· = .queued receipt (some receipt.sendTimestamp))
    (ReceiptEntry.Removes receipt.identity) history

/-- An overflow was reported, and nothing was removed since. -/
def Overflowing (history : List ReceiptEntry) : Prop :=
  History.Since (· = .overflow) ReceiptEntry.IsRemoval history

def Because (history : List ReceiptEntry) : ReceiptEntry → Prop
  | .queued receipt assigned => assigned = some receipt.sendTimestamp
  | .overflow => ¬Overflowing history
  | .attempted task => Owed history task.receipt
  | .removed receipt joined =>
      ∃ task result, joined = some (task, result) ∧ .attempted task ∈ history ∧
        task.receipt = receipt ∧ result.isFinal = true
  | .recovers task receiveGeneration receptions =>
      task.generation = receiveGeneration ∧
        (task.reception = receptions ∨ 2 ^ 64 - 1 ≤ receptions - task.reception)
  | .emitted _ => True

structure ReceiptLaw (run : ReceiptRun) (history : List ReceiptEntry) : Prop where
  identities : ∀ identity, identity ∈ run.queue.identities ↔
    ∃ receipt ∈ run.receipts, receipt.identity = identity
  distinct : (run.receipts.map (·.identity)).Nodup
  bounded : run.queue.pending.length ≤ maxPendingDeliveryReceipts
  flying : ∀ receipt, (receipt, .inFlight) ∈ run.queue.pending ↔
    ∃ task ∈ run.tasks, task.receipt = receipt
  single : run.queue.inFlight.length ≤ 1
  owed : ∀ receipt, receipt ∈ run.receipts ↔ Owed history receipt
  justified : History.Justified Because history

/-! ## Generations -/

/-- The generation after a number of receptions. -/
def generationAfter : Nat → UInt64
  | 0 => 0
  | receptions + 1 => nextGeneration (generationAfter receptions)

theorem toNat_nextGeneration (generation : UInt64) :
    (nextGeneration generation).toNat = max ((generation.toNat + 1) % 2 ^ 64) 1 := by
  unfold nextGeneration
  rw [UInt64.max_def]
  have sum : (generation + 1).toNat = (generation.toNat + 1) % 2 ^ 64 := by simp
  split
  next small =>
    rw [UInt64.le_iff_toNat_le, sum] at small
    exact (Nat.max_eq_right small).symm
  next large =>
    rw [UInt64.le_iff_toNat_le, sum] at large
    rw [sum]
    exact (Nat.max_eq_left (Nat.le_of_not_le large)).symm

theorem toNat_generationAfter (receptions : Nat) :
    (generationAfter (receptions + 1)).toNat = receptions % (2 ^ 64 - 1) + 1 := by
  induction receptions with
  | zero => decide
  | succ receptions induction =>
      rw [generationAfter, toNat_nextGeneration, induction]
      omega

/-- Generations repeat only after all others were used. -/
theorem reception_of_generation {earlier later : Nat} (order : earlier ≤ later)
    (same : generationAfter earlier = generationAfter later) :
    earlier = later ∨ 2 ^ 64 - 1 ≤ later - earlier := by
  have sameNat := congrArg UInt64.toNat same
  rcases earlier with - | earlier
  · rcases later with - | later
    · exact Or.inl rfl
    · rw [toNat_generationAfter] at sameNat
      exact absurd sameNat (by simp [generationAfter])
  · obtain ⟨later, rfl⟩ : ∃ before, later = before + 1 := ⟨later - 1, by omega⟩
    rw [toNat_generationAfter, toNat_generationAfter] at sameNat
    omega

/-! ## The queue -/

/-- The queue against what was seen of it. -/
structure Books (queue : DeliveryReceiptQueue) (history : List ReceiptEntry) : Prop where
  consistent : queue.Consistent
  owed : ∀ receipt, receipt ∈ queue.receipts ↔ Owed history receipt
  reported : queue.limitReported = false → ¬Overflowing history

variable {queue after : DeliveryReceiptQueue} {history entries : List ReceiptEntry}
  {receipt : PendingDeliveryReceipt}

theorem owed_append (neutral : ∀ entry ∈ entries, entry.OfAttempts) :
    Owed (history ++ entries) receipt ↔ Owed history receipt := by
  apply History.since_append_of_neutral
  intro entry member
  have attempts := neutral entry member
  cases entry <;> simp_all [ReceiptEntry.OfAttempts, ReceiptEntry.Removes]

theorem overflowing_append (neutral : ∀ entry ∈ entries, entry.OfAttempts)
    (noOverflow : .overflow ∉ entries) :
    Overflowing (history ++ entries) ↔ Overflowing history := by
  apply History.since_append_of_neutral
  intro entry member
  have attempts := neutral entry member
  refine ⟨fun isOverflow => noOverflow (isOverflow ▸ member), ?_⟩
  cases entry <;> simp_all [ReceiptEntry.OfAttempts, ReceiptEntry.IsRemoval]

namespace Books

theorem quiet (books : Books queue history) (sameReceipts : after.receipts = queue.receipts)
    (sameIdentities : after.identities = queue.identities)
    (sameReport : after.limitReported = queue.limitReported)
    (neutral : ∀ entry ∈ entries, entry.OfAttempts) (noOverflow : .overflow ∉ entries) :
    Books after (history ++ entries) where
  consistent := books.consistent.of_receipts sameReceipts sameIdentities
  owed receipt := by rw [sameReceipts, owed_append neutral, books.owed]
  reported unreported := by
    rw [overflowing_append neutral noOverflow]
    exact books.reported (sameReport ▸ unreported)

theorem overflow (books : Books queue history) (neutral : ∀ entry ∈ entries, entry.OfAttempts) :
    Books { queue with limitReported := true } (history ++ entries) where
  consistent := books.consistent.of_receipts rfl rfl
  owed receipt := by
    rw [owed_append neutral]
    exact books.owed receipt
  reported unreported := by cases unreported

theorem enqueue (books : Books queue history) (consistent : after.Consistent)
    (grown : after.receipts = queue.receipts ++ [receipt])
    (sameReport : after.limitReported = queue.limitReported) :
    Books after (history ++ [.queued receipt (some receipt.sendTimestamp)]) where
  consistent := consistent
  owed other := by
    unfold Owed
    rw [grown, List.mem_append, List.mem_singleton, History.since_concat, books.owed]
    constructor
    · rintro (before | rfl)
      · exact Or.inr ⟨before, id⟩
      · exact Or.inl rfl
    · rintro (isIt | ⟨before, _⟩)
      · exact Or.inr (ReceiptEntry.queued.inj isIt).1.symm
      · exact Or.inl before
  reported unreported := by
    unfold Overflowing
    rw [History.since_concat]
    rintro (isOverflow | ⟨overflowing, _⟩)
    · cases isOverflow
    · exact books.reported (sameReport ▸ unreported) overflowing

theorem complete (books : Books queue history) (joined : Option (ReceiptTask × ReceiptResult)) :
    Books (queue.complete receipt.identity) (history ++ [.removed receipt joined]) where
  consistent := books.consistent.complete receipt.identity
  owed other := by
    unfold Owed
    rw [DeliveryReceiptQueue.receipts_complete books.consistent, List.mem_filter,
      History.since_concat, books.owed]
    constructor
    · rintro ⟨before, differs⟩
      refine Or.inr ⟨before, fun same : receipt.identity = other.identity => ?_⟩
      simp [same] at differs
    · rintro (isIt | ⟨before, stays⟩)
      · cases isIt
      · have differs : ¬receipt.identity = other.identity := stays
        exact ⟨before, by simpa using fun same => differs same.symm⟩
  reported _ := by
    unfold Overflowing
    rw [History.since_concat]
    rintro (isOverflow | ⟨_, stays⟩)
    · cases isOverflow
    · exact stays trivial

end Books

/-! ## The attempts -/

/-- The running attempts against the states of the entries and what was seen of them. -/
structure Attempts (run : ReceiptRun) (history : List ReceiptEntry) : Prop where
  flying : run.queue.inFlight = run.tasks.map (·.receipt)
  single : run.tasks.length ≤ 1
  started : ∀ task ∈ run.tasks, .attempted task ∈ history
  current : run.receiveGeneration = generationAfter run.receptions
  earlier : ∀ task ∈ run.tasks, task.generation = generationAfter task.reception ∧
    task.reception ≤ run.receptions

structure Holds (run : ReceiptRun) (history : List ReceiptEntry) : Prop where
  books : Books run.queue history
  attempts : Attempts run history
  justified : History.Justified Because history

variable {run next : ReceiptRun} {label : ReceiptLabel}

theorem holds_initial : Holds {} [] where
  books := {
    consistent := ⟨rfl, List.nodup_nil, Nat.zero_le _⟩
    owed := fun receipt => by simp [Owed, DeliveryReceiptQueue.receipts]
    reported := fun _ => by simp [Overflowing] }
  attempts := ⟨rfl, Nat.zero_le _, by simp, rfl, by simp⟩
  justified := History.justified_nil _

theorem Attempts.keep (attempts : Attempts run history)
    (sameFlight : next.queue.inFlight = run.queue.inFlight) (sameTasks : next.tasks = run.tasks)
    (sameGeneration : next.receiveGeneration = run.receiveGeneration)
    (sameReceptions : next.receptions = run.receptions) :
    Attempts next (history ++ entries) where
  flying := by rw [sameFlight, sameTasks, attempts.flying]
  single := sameTasks ▸ attempts.single
  started := by
    rw [sameTasks]
    intro task member
    exact List.mem_append_left _ (attempts.started task member)
  current := by rw [sameGeneration, sameReceptions, attempts.current]
  earlier := by
    rw [sameTasks, sameReceptions]
    exact attempts.earlier

theorem Attempts.ended (attempts : Attempts run history) (grounded : next.queue.inFlight = [])
    (noTasks : next.tasks = []) (sameGeneration : next.receiveGeneration = run.receiveGeneration)
    (sameReceptions : next.receptions = run.receptions) :
    Attempts next (history ++ entries) where
  flying := by rw [grounded, noTasks, List.map_nil]
  single := by rw [noTasks]; exact Nat.zero_le _
  started := by simp [noTasks]
  current := by rw [sameGeneration, sameReceptions, attempts.current]
  earlier := by simp [noTasks]

theorem Attempts.tasks_eq (attempts : Attempts run history) {index : Nat} {task : ReceiptTask}
    (found : run.tasks[index]? = some task) : run.tasks = [task] ∧ index = 0 := by
  have ⟨inRange, isTask⟩ := List.getElem?_eq_some_iff.mp found
  have single := attempts.single
  have first : index = 0 := by omega
  subst first
  rcases tasks : run.tasks with - | ⟨head, tail⟩
  · simp [tasks] at inRange
  · rw [tasks, List.length_cons] at single
    have noMore : tail = [] := List.eq_nil_of_length_eq_zero (by omega)
    simp_all

/-! ## What is seen of the queue -/

theorem changes_of_same (same : next.receipts = run.receipts) : run.changes next label = [] := by
  have none : run.receipts.filter (· ∉ run.receipts) = [] := by
    rw [List.filter_eq_nil_iff]
    simp
  rw [changes, same, none]
  rfl

theorem changes_of_grown (fresh : receipt ∉ run.receipts)
    (grown : next.receipts = run.receipts ++ [receipt]) :
    run.changes next label = [.queued receipt (assigned label)] := by
  have gone : run.receipts.filter (· ∉ run.receipts ++ [receipt]) = [] := by
    rw [List.filter_eq_nil_iff]
    simp
    tauto
  have come : (run.receipts ++ [receipt]).filter (· ∉ run.receipts) = [receipt] := by
    have none : run.receipts.filter (· ∉ run.receipts) = [] := by
      rw [List.filter_eq_nil_iff]
      simp
    rw [List.filter_append, none]
    simp [fresh]
  rw [changes, grown, gone, come]
  rfl

theorem filter_removed {receipts : List PendingDeliveryReceipt}
    (distinct : (receipts.map (·.identity)).Nodup) (member : receipt ∈ receipts) :
    receipts.filter (· ∉ receipts.filter fun other => !(other.identity == receipt.identity)) =
      [receipt] := by
  have alone : ∀ other ∈ receipts,
      (other ∉ receipts.filter fun other => !(other.identity == receipt.identity)) ↔
        other = receipt := by
    intro other isOther
    rw [List.mem_filter]
    constructor
    · intro gone
      have same : other.identity = receipt.identity := by simpa [isOther] using gone
      exact List.inj_on_of_nodup_map distinct isOther member same
    · rintro rfl
      simp
  rw [List.filter_congr fun other isOther => decide_eq_decide.mpr (alone other isOther)]
  rw [List.filter_eq, List.count_eq_one_of_mem distinct.of_map member]
  rfl

theorem changes_of_completed (distinct : (run.receipts.map (·.identity)).Nodup)
    (member : receipt ∈ run.receipts)
    (shrunk : next.receipts =
      run.receipts.filter fun other => !(other.identity == receipt.identity)) :
    run.changes next label = [.removed receipt (run.joined label)] := by
  have none : next.receipts.filter (· ∉ run.receipts) = [] := by
    rw [List.filter_eq_nil_iff, shrunk]
    intro other isOther
    simpa using List.mem_of_mem_filter isOther
  rw [changes, none, shrunk, filter_removed distinct member]
  rfl

/-! ## The steps -/

namespace Holds

theorem quiet (holds : Holds run history) (attempts : Attempts next (history ++ entries))
    (sameReceipts : next.queue.receipts = run.queue.receipts)
    (sameIdentities : next.queue.identities = run.queue.identities)
    (sameReport : next.queue.limitReported = run.queue.limitReported)
    (neutral : ∀ entry ∈ entries, entry.OfAttempts) (noOverflow : .overflow ∉ entries)
    (justified : History.Justified Because (history ++ entries)) :
    Holds next (history ++ (entries ++ run.changes next label)) := by
  rw [changes_of_same sameReceipts, List.append_nil]
  exact ⟨holds.books.quiet sameReceipts sameIdentities sameReport neutral noOverflow, attempts,
    justified⟩

theorem silent (holds : Holds run history) (attempts : Attempts next history)
    (sameReceipts : next.queue.receipts = run.queue.receipts)
    (sameIdentities : next.queue.identities = run.queue.identities)
    (sameReport : next.queue.limitReported = run.queue.limitReported) :
    Holds next (history ++ ([] ++ run.changes next label)) := by
  apply holds.quiet _ sameReceipts sameIdentities sameReport
  · simp
  · simp
  · simpa using holds.justified
  · simpa using attempts

theorem enqueue (holds : Holds run history) {recipient : ServiceId}
    {messageTimestamp sendTimestamp : UInt64} {event : Event} {queued : DeliveryReceiptQueue × Bool}
    (isQueued : run.queue.enqueue recipient messageTimestamp sendTimestamp = queued)
    (isLabel : assigned label = some sendTimestamp) :
    Holds { run with queue := queued.1 } (history ++
      ((if queued.2 then [.overflow, .emitted event] else []) ++
        run.changes { run with queue := queued.1 } label)) := by
  rcases DeliveryReceiptQueue.enqueue_cases holds.books.consistent recipient messageTimestamp
      sendTimestamp with known | full | ⟨receipt, queue, sameTime, isNew, fresh, grown, sameFlight,
        sameReport, consistent⟩
  · rw [known] at isQueued
    subst isQueued
    exact holds.silent holds.attempts rfl rfl rfl
  · rw [full] at isQueued
    subst isQueued
    have unseen : run.changes { run with queue := { run.queue with limitReported := true } }
        label = [] := changes_of_same rfl
    dsimp only
    rw [unseen, List.append_nil]
    cases reported : run.queue.limitReported with
    | true =>
        refine ⟨holds.books.overflow (by simp), holds.attempts.keep rfl rfl rfl rfl, ?_⟩
        simpa using holds.justified
    | false =>
        refine ⟨holds.books.overflow ?_, holds.attempts.keep rfl rfl rfl rfl, ?_⟩
        · simp [ReceiptEntry.OfAttempts]
        · have first : History.Justified Because (history ++ [.overflow]) :=
            History.justified_concat holds.justified (holds.books.reported reported)
          have both : History.Justified Because (history ++ [.overflow] ++ [.emitted event]) :=
            History.justified_concat first trivial
          simpa using both
  · rw [isNew] at isQueued
    subst isQueued
    have isTime : assigned label = some receipt.sendTimestamp := by rw [isLabel, sameTime]
    have seen : run.changes { run with queue } label =
        [.queued receipt (some receipt.sendTimestamp)] :=
      isTime ▸ changes_of_grown fresh grown
    dsimp only
    rw [seen]
    refine ⟨holds.books.enqueue consistent grown sameReport,
      holds.attempts.keep sameFlight rfl rfl rfl, ?_⟩
    exact History.justified_concat holds.justified rfl

theorem handleContent (holds : Holds run history) {content : Content} {sendTimestamp : UInt64}
    (handled : run.handleContent content sendTimestamp = (next, entries)) :
    Holds next (history ++
      (entries ++ run.changes next (.content content sendTimestamp))) := by
  have unchanged : Holds run (history ++
      ([] ++ run.changes run (.content content sendTimestamp))) :=
    holds.silent holds.attempts rfl rfl rfl
  unfold ReceiptRun.handleContent at handled
  split at handled
  · split at handled
    · cases handled
      exact holds.enqueue rfl rfl
    · cases handled
      exact unchanged
  · cases handled
    exact unchanged

theorem startReceipt (holds : Holds run history) (started : run.startReceipt = (next, entries)) :
    Holds next (history ++ (entries ++ run.changes next .dispatch)) := by
  unfold ReceiptRun.startReceipt at started
  split at started
  next isEmpty =>
    have noTasks : run.tasks = [] := List.isEmpty_iff.mp isEmpty
    have idle : run.queue.inFlight = [] := by rw [holds.attempts.flying, noTasks, List.map_nil]
    split at started
    next queue starts =>
      cases started
      have ⟨sameReceipts, sameIdentities, sameReport, flying, _⟩ :=
        DeliveryReceiptQueue.startNext_spec starts idle
      apply holds.silent _ sameReceipts sameIdentities sameReport
      rw [← List.append_nil history]
      exact holds.attempts.keep (flying.trans idle.symm) rfl rfl rfl
    next queue receipt starts =>
      cases started
      have ⟨sameReceipts, sameIdentities, sameReport, flying, known⟩ :=
        DeliveryReceiptQueue.startNext_spec starts idle
      have owed : Owed history receipt := (holds.books.owed receipt).mp (known receipt rfl)
      apply holds.quiet _ sameReceipts sameIdentities sameReport
      · simp [ReceiptEntry.OfAttempts]
      · simp
      · exact History.justified_concat holds.justified owed
      · refine ⟨?_, ?_, ?_, holds.attempts.current, ?_⟩
        · simpa [noTasks] using flying
        · simp [noTasks]
        · simp [noTasks]
        · simpa [noTasks] using holds.attempts.current
  next =>
    cases started
    exact holds.silent holds.attempts rfl rfl rfl

theorem complete (holds : Holds run history) {index : Nat} {task : ReceiptTask}
    {result : ReceiptResult} (found : run.tasks[index]? = some task)
    (isFinal : result.isFinal = true) (events : List Event)
    (isQueue : next.queue = run.queue.complete task.receipt.identity) (noTasks : next.tasks = [])
    (sameGeneration : next.receiveGeneration = run.receiveGeneration)
    (sameReceptions : next.receptions = run.receptions) :
    Holds next (history ++ (events.map ReceiptEntry.emitted ++
      run.changes next (.completed index result))) := by
  have ⟨isTask, _⟩ := holds.attempts.tasks_eq found
  have isFlying : run.queue.inFlight = [task.receipt] := by rw [holds.attempts.flying, isTask]; rfl
  have member : task.receipt ∈ run.receipts :=
    DeliveryReceiptQueue.mem_receipts_of_mem_inFlight (by simp [isFlying])
  have shrunk : next.receipts =
      run.receipts.filter fun other => !(other.identity == task.receipt.identity) := by
    rw [ReceiptRun.receipts, isQueue]
    exact DeliveryReceiptQueue.receipts_complete holds.books.consistent
  have seen : run.changes next (.completed index result) =
      [.removed task.receipt (some (task, result))] := by
    rw [changes_of_completed holds.books.consistent.distinct member shrunk]
    simp [joined, found]
  have neutral : ∀ entry ∈ events.map ReceiptEntry.emitted, entry.OfAttempts := by
    simp [ReceiptEntry.OfAttempts]
  have told := holds.books.quiet rfl rfl rfl neutral (by simp)
  have justified : History.Justified Because (history ++ events.map ReceiptEntry.emitted) := by
    apply History.justified_append_of_forall holds.justified
    simp [Because]
  rw [seen, ← List.append_assoc]
  refine ⟨isQueue ▸ told.complete _, ?_, ?_⟩
  · rw [List.append_assoc]
    apply holds.attempts.ended _ noTasks sameGeneration sameReceptions
    rw [isQueue, DeliveryReceiptQueue.inFlight_complete holds.books.consistent, isFlying]
    simp
  · apply History.justified_concat justified
    refine ⟨task, result, rfl, ?_, rfl, isFinal⟩
    exact List.mem_append_left _ (holds.attempts.started task (by simp [isTask]))

theorem retry (holds : Holds run history) {index : Nat} {task : ReceiptTask}
    (found : run.tasks[index]? = some task) {immediately : Bool}
    (isQueue : next.queue = run.queue.retry task.receipt.identity immediately)
    (noTasks : next.tasks = []) (sameGeneration : next.receiveGeneration = run.receiveGeneration)
    (sameReceptions : next.receptions = run.receptions)
    (only : ∀ entry ∈ entries, entry = .recovers task run.receiveGeneration run.receptions ∧
      task.generation = run.receiveGeneration) :
    Holds next (history ++ (entries ++ run.changes next label)) := by
  have ⟨isTask, _⟩ := holds.attempts.tasks_eq found
  have consistent := holds.books.consistent
  apply holds.quiet
  · apply holds.attempts.ended _ noTasks sameGeneration sameReceptions
    rw [isQueue, DeliveryReceiptQueue.inFlight_retry consistent, holds.attempts.flying, isTask]
    simp
  · rw [isQueue, DeliveryReceiptQueue.receipts_retry consistent]
  · rw [isQueue]; rfl
  · rw [isQueue]; rfl
  · intro entry member
    rw [(only entry member).1]
    trivial
  · intro member
    cases (only _ member).1
  · apply History.justified_append_of_forall holds.justified
    intro entry member before
    have ⟨isEntry, current⟩ := only entry member
    have ⟨isGeneration, order⟩ := holds.attempts.earlier task (by simp [isTask])
    rw [isEntry]
    refine ⟨current, reception_of_generation order ?_⟩
    rw [← isGeneration, current, holds.attempts.current]

theorem finishReceipt (holds : Holds run history) {index : Nat} {task : ReceiptTask}
    {result : ReceiptResult} (found : run.tasks[index]? = some task)
    (finished : { run with tasks := run.tasks.eraseIdx index }.finishReceipt task result =
      (next, entries)) :
    Holds next (history ++ (entries ++ run.changes next (.completed index result))) := by
  have ⟨isTask, isFirst⟩ := holds.attempts.tasks_eq found
  have noTasks : run.tasks.eraseIdx index = [] := by simp [isTask, isFirst]
  rcases finishDeliveryReceiptAttempt_cases run.queue task.receipt result with
    ⟨isFinal, events, isEnd⟩ | ⟨immediately, reason, isEnd⟩
  · simp only [ReceiptRun.finishReceipt, isEnd] at finished
    cases finished
    exact holds.complete found isFinal events rfl noTasks rfl rfl
  · simp only [ReceiptRun.finishReceipt, isEnd] at finished
    cases reason with
    | none =>
        cases finished
        exact holds.retry found rfl noTasks rfl rfl (by simp)
    | some reason =>
        dsimp only at finished
        split at finished
        next current =>
          cases finished
          exact holds.retry found rfl noTasks rfl rfl (by simpa using current)
        next =>
          cases finished
          exact holds.retry found rfl noTasks rfl rfl (by simp)

theorem release (holds : Holds run history) (isQueue : next.queue = run.queue.releaseInFlight)
    (noTasks : next.tasks = []) (sameGeneration : next.receiveGeneration = run.receiveGeneration)
    (sameReceptions : next.receptions = run.receptions)
    (only : ∀ entry ∈ entries, ∃ event, entry = .emitted event) :
    Holds next (history ++ (entries ++ run.changes next label)) := by
  apply holds.quiet
  · apply holds.attempts.ended _ noTasks sameGeneration sameReceptions
    rw [isQueue, DeliveryReceiptQueue.inFlight_releaseInFlight]
  · rw [isQueue]
    exact DeliveryReceiptQueue.receipts_moveAll _ _
  · rw [isQueue]; rfl
  · rw [isQueue]; rfl
  · intro entry member
    obtain ⟨event, rfl⟩ := only entry member
    trivial
  · intro member
    obtain ⟨event, isEvent⟩ := only _ member
    cases isEvent
  · apply History.justified_append_of_forall holds.justified
    intro entry member before
    obtain ⟨event, rfl⟩ := only entry member
    trivial

theorem activate (holds : Holds run history) :
    Holds { run with queue := run.queue.activateRetries }
      (history ++ ([] ++ run.changes { run with queue := run.queue.activateRetries } label)) := by
  refine holds.silent ?_ (DeliveryReceiptQueue.receipts_moveAll _ _) rfl rfl
  rw [← List.append_nil history]
  exact holds.attempts.keep DeliveryReceiptQueue.inFlight_activateRetries rfl rfl rfl

theorem receptionStarted (holds : Holds run history) :
    Attempts { run with
      receiveGeneration := nextGeneration run.receiveGeneration
      receptions := run.receptions + 1
      queue := run.queue.activateRetries
      dispatching := true } history where
  flying := by rw [DeliveryReceiptQueue.inFlight_activateRetries, holds.attempts.flying]
  single := holds.attempts.single
  started := holds.attempts.started
  current := congrArg nextGeneration holds.attempts.current
  earlier task member := by
    have ⟨isGeneration, order⟩ := holds.attempts.earlier task member
    exact ⟨isGeneration, Nat.le_succ_of_le order⟩

theorem act (holds : Holds run history) (acted : run.act label = some (next, entries)) :
    Holds next (history ++ (entries ++ run.changes next label)) := by
  have unchanged : ∀ {after : ReceiptRun}, after.queue = run.queue → after.tasks = run.tasks →
      after.receiveGeneration = run.receiveGeneration → after.receptions = run.receptions →
      Holds after (history ++ ([] ++ run.changes after label)) := by
    intro after sameQueue sameTasks sameGeneration sameReceptions
    apply holds.silent _ (by rw [sameQueue]) (by rw [sameQueue]) (by rw [sameQueue])
    rw [← List.append_nil history]
    exact holds.attempts.keep (by rw [sameQueue]) sameTasks sameGeneration sameReceptions
  cases label with
  | content content sendTimestamp =>
      simp only [ReceiptRun.act, Option.ite_none_right_eq_some, Option.some.injEq] at acted
      exact holds.handleContent acted.2
  | dispatch =>
      simp only [ReceiptRun.act, Option.ite_none_right_eq_some, Option.some.injEq] at acted
      exact holds.startReceipt acted.2
  | completed index result =>
      simp only [ReceiptRun.act] at acted
      split at acted
      next task _ found => exact holds.finishReceipt found (Option.some.inj acted)
      next => cases acted
  | workerStopped index error =>
      simp only [ReceiptRun.act, Option.ite_none_right_eq_some, Option.some.injEq,
        Bool.and_eq_true, decide_eq_true_eq] at acted
      obtain ⟨task, found⟩ : ∃ task, run.tasks[index]? = some task :=
        ⟨_, List.getElem?_eq_getElem acted.1.2⟩
      have ⟨isTask, isFirst⟩ := holds.attempts.tasks_eq found
      cases acted.2
      exact holds.release rfl (by simp [isTask, isFirst]) rfl rfl (by simp)
  | retryTick =>
      simp only [ReceiptRun.act, Option.ite_none_right_eq_some, Option.some.injEq] at acted
      cases acted.2
      exact holds.activate
  | recover =>
      simp only [ReceiptRun.act, Option.ite_none_right_eq_some, Option.some.injEq] at acted
      cases acted.2
      exact unchanged rfl rfl rfl rfl
  | receptionStarted =>
      simp only [ReceiptRun.act, Option.ite_none_left_eq_some, Option.some.injEq] at acted
      cases acted.2
      exact holds.silent holds.receptionStarted (DeliveryReceiptQueue.receipts_moveAll _ _) rfl rfl
  | shutdown inTime =>
      simp only [ReceiptRun.act, Option.ite_none_left_eq_some] at acted
      replace acted := acted.2
      split at acted
      · cases acted
        exact holds.release rfl rfl rfl rfl (by simp)
      · cases acted
        exact unchanged rfl rfl rfl rfl

theorem step (holds : Holds run history) (stepped : run.step label = some (next, entries)) :
    Holds next (history ++ entries) := by
  unfold ReceiptRun.step at stepped
  split at stepped
  next => cases stepped
  next after seen acted =>
    cases stepped
    exact holds.act acted

theorem law (holds : Holds run history) : ReceiptLaw run history where
  identities identity := by
    rw [holds.books.consistent.identities, List.mem_toFinset, List.mem_map]
    rfl
  distinct := holds.books.consistent.distinct
  bounded := holds.books.consistent.bounded
  flying receipt := by
    rw [← DeliveryReceiptQueue.mem_inFlight, holds.attempts.flying, List.mem_map]
  single := by
    rw [holds.attempts.flying, List.length_map]
    exact holds.attempts.single
  owed := holds.books.owed
  justified := holds.justified

end Holds

/-- In every run: the identities are those of the entries, none is pending twice and at most
4096 are; an entry is in flight exactly while its attempt has not been joined; an attempt
sends the time given at the enqueue; an entry goes with a final result only; an overflow is
reported once between two removals; and a recovery is never due to an earlier generation. -/
theorem receiptLaw_of_run {labels : List ReceiptLabel} {run : ReceiptRun}
    {history : List ReceiptEntry} (reached : machine.run labels = some (run, history)) :
    ReceiptLaw run history := by
  have holds : Holds run history :=
    machine.run_invariant holds_initial (fun _ _ _ _ _ holds stepped => holds.step stepped) reached
  exact holds.law

def receiptRequest (sender : String) : Content where
  metadata := {
    sender := .pni sender
    destination := .pni "own"
    clientTimestamp := 0
    needsReceipt := true }
  body := .dataMessage { timestamp := some 5 }

/-- The first attempt ends after a reconnect, its repetition ends the next connection, and the
third one succeeds. -/
def reconnecting : List ReceiptLabel :=
  let closed : ReceiptResult := .failed ⟨true, true, "closing"⟩
  [.receptionStarted, .content (receiptRequest "alice") 7, .content (receiptRequest "alice") 8,
    .dispatch, .recover, .receptionStarted, .completed 0 closed, .dispatch, .completed 0 closed,
    .receptionStarted, .dispatch, .completed 0 .sent]

theorem receiptLaw_of_reconnecting :
    ∃ run history, machine.run reconnecting = some (run, history) ∧ ReceiptLaw run history := by
  have defined : (machine.run reconnecting).isSome = true := by decide +kernel
  rcases Option.isSome_iff_exists.mp defined with ⟨⟨run, history⟩, reached⟩
  exact ⟨run, history, reached, receiptLaw_of_run reached⟩

end ReceiptRun

end SignalPurple
