import SignalPurple.Adapter.PendingReads
import SignalPurple.Foundation.History

/-! # The law of the pending read receipts

What the core was asked and answered, and where the focus was, determine the table. A flush is
left in one of three ways, and each of them leaves something that retries what is left.
-/

namespace SignalPurple

namespace ReadEntry

def Queues (key : ReadKey) : ReadEntry → Prop
  | .queued other _ => other = key
  | _ => False

/-- The core has taken or rejected the receipt, or its group is gone. -/
def Ends (key : ReadKey) : ReadEntry → Prop
  | .markRead other status => other = key ∧ status ≠ .queueFull ∧ status ≠ .notReady
  | .deactivated group => key.chatId = some group
  | _ => False

def answer : ReadEntry → Option SignalStatus
  | .markRead _ status => some status
  | _ => none

end ReadEntry

namespace ReadRun

variable {history entries : List ReadEntry} {key : ReadKey}

def IsPending (history : List ReadEntry) (key : ReadKey) : Prop :=
  History.Since (ReadEntry.Queues key) (ReadEntry.Ends key) history

/-- The entry's own conversation had the focus when the entry was queued, or later. -/
def Seen (history : List ReadEntry) (key : ReadKey) : Prop :=
  ∃ before focused after, history = before ++ .queued key focused :: after ∧
    (∀ later ∈ after, ¬later.Ends key) ∧ (focused = true ∨ .focus key.place ∈ after)

def lastAnswer (history : List ReadEntry) : Option SignalStatus :=
  (history.filterMap ReadEntry.answer).getLast?

def Because (history : List ReadEntry) : ReadEntry → Prop
  | .queued key _ => ¬IsPending history key
  | .markRead key _ => Seen history key
  | _ => True

/-- Something will retry the eligible entries. -/
def NoneStranded (run : ReadRun) (history : List ReadEntry) : Prop :=
  run.closing = false → run.core = true → (∃ read ∈ run.pendingReads, read.eligible = true) →
    run.retryArmed = true ∨ lastAnswer history = some .notReady

structure ReadLaw (run : ReadRun) (history : List ReadEntry) : Prop where
  distinct : (run.pendingReads.map (·.toReadKey)).Nodup
  bounded : run.pendingReads.length ≤ maxPendingReads
  pending : ∀ key, key ∈ run.pendingReads.map (·.toReadKey) ↔ IsPending history key
  justified : History.Justified Because history
  noneStranded : run.NoneStranded history

theorem Seen.append (seen : Seen history key) (goOn : ∀ entry ∈ entries, ¬entry.Ends key) :
    Seen (history ++ entries) key := by
  obtain ⟨before, focused, after, rfl, goesOn, hadFocus⟩ := seen
  refine ⟨before, focused, after ++ entries, by simp, ?_, ?_⟩
  · intro later member
    rcases List.mem_append.mp member with earlier | new
    · exact goesOn later earlier
    · exact goOn later new
  · exact hadFocus.imp id (List.mem_append_left _)

theorem not_ends_focus {places : List ReadPlace} {entry : ReadEntry}
    (member : entry ∈ places.map ReadEntry.focus) : ¬entry.Ends key := by
  rcases List.mem_map.mp member with ⟨place, _, rfl⟩
  exact id

theorem not_queues_focus {places : List ReadPlace} {entry : ReadEntry}
    (member : entry ∈ places.map ReadEntry.focus) : ¬entry.Queues key := by
  rcases List.mem_map.mp member with ⟨place, _, rfl⟩
  exact id

theorem IsPending.seen_focus (pending : IsPending history key) {places : List ReadPlace}
    (own : key.place ∈ places) : Seen (history ++ places.map .focus) key := by
  obtain ⟨before, entry, after, rfl, queues, goesOn⟩ := pending
  cases entry with
  | queued other focused =>
      have isKey : other = key := queues
      subst isKey
      refine ⟨before, focused, after ++ places.map .focus, by simp, ?_, Or.inr ?_⟩
      · intro later member
        rcases List.mem_append.mp member with earlier | isFocus
        · exact goesOn later earlier
        · exact not_ends_focus isFocus
      · exact List.mem_append_right _ (List.mem_map_of_mem own)
  | _ => exact queues.elim

theorem seen_queued (history : List ReadEntry) (key : ReadKey) :
    Seen (history ++ [.queued key true]) key :=
  ⟨history, true, [], rfl, by simp, Or.inl rfl⟩

theorem keys_marked (reads : List SignalPendingRead) (directPeer groupKey : Option String) :
    (reads.map fun read =>
      if read.isIn directPeer groupKey then { read with eligible := true } else read).map
        (·.toReadKey) = reads.map (·.toReadKey) := by
  rw [List.map_map]
  apply List.map_congr_left
  intro read _
  simp only [Function.comp_apply]
  split <;> rfl

structure Books (reads : List SignalPendingRead) (history : List ReadEntry) : Prop where
  distinct : (reads.map (·.toReadKey)).Nodup
  pending : ∀ key, key ∈ reads.map (·.toReadKey) ↔ IsPending history key
  seen : ∀ read ∈ reads, read.eligible = true → Seen history read.toReadKey
  justified : History.Justified Because history

variable {reads : List SignalPendingRead}

namespace Books

theorem kept (books : Books reads history) (seen : Seen history key) {status : SignalStatus}
    (stays : status = .queueFull ∨ status = .notReady) :
    Books reads (history ++ [.markRead key status]) := by
  have noEnd : ∀ other, ¬(ReadEntry.markRead key status).Ends other := by
    rintro other ⟨_, notFull, notUnready⟩
    exact stays.elim notFull notUnready
  refine ⟨books.distinct, ?_, ?_, History.justified_concat books.justified seen⟩
  · intro other
    rw [books.pending, IsPending, IsPending, History.since_concat]
    constructor
    · exact fun before => Or.inr ⟨before, noEnd other⟩
    · rintro (queues | ⟨before, _⟩)
      · exact queues.elim
      · exact before
  · intro read member eligible
    exact (books.seen read member eligible).append (by simpa using noEnd _)

/-- The entries that an answer or the end of a group concerns are taken out. -/
theorem filter (books : Books reads history) {entry : ReadEntry}
    {keeps : SignalPendingRead → Bool} (because : Because history entry)
    (queuesNone : ∀ other, ¬entry.Queues other)
    (ends : ∀ read, keeps read = true ↔ ¬entry.Ends read.toReadKey) :
    Books (reads.filter keeps) (history ++ [entry]) := by
  refine ⟨books.distinct.sublist (List.filter_sublist.map _), ?_, ?_,
    History.justified_concat books.justified because⟩
  · intro other
    rw [IsPending, History.since_concat, ← IsPending, ← books.pending]
    constructor
    · intro member
      rcases List.mem_map.mp member with ⟨read, stays, rfl⟩
      have ⟨inTable, goesOn⟩ := List.mem_filter.mp stays
      exact Or.inr ⟨List.mem_map_of_mem inTable, (ends read).mp goesOn⟩
    · rintro (queues | ⟨before, stays⟩)
      · exact absurd queues (queuesNone other)
      · rcases List.mem_map.mp before with ⟨read, inTable, rfl⟩
        exact List.mem_map_of_mem (List.mem_filter.mpr ⟨inTable, (ends read).mpr stays⟩)
  · intro read member eligible
    have ⟨inTable, goesOn⟩ := List.mem_filter.mp member
    apply (books.seen read inTable eligible).append
    intro entry isEntry
    rw [List.mem_singleton.mp isEntry]
    exact (ends read).mp goesOn

theorem removed (books : Books reads history) (seen : Seen history key) {status : SignalStatus}
    (notFull : status ≠ .queueFull) (notUnready : status ≠ .notReady) :
    Books (reads.filter (·.toReadKey ≠ key)) (history ++ [.markRead key status]) := by
  refine books.filter (by exact seen) (fun _ => id) ?_
  grind [ReadEntry.Ends]

theorem focused (books : Books reads history) {places : List ReadPlace}
    {directPeer groupKey : Option String}
    (own : ∀ key : ReadKey, key.isIn directPeer groupKey = true → key.place ∈ places) :
    Books (reads.map fun read =>
        if read.isIn directPeer groupKey then { read with eligible := true } else read)
      (history ++ places.map .focus) := by
  have sameKeys := keys_marked reads directPeer groupKey
  refine ⟨sameKeys ▸ books.distinct, ?_, ?_, ?_⟩
  · intro other
    rw [sameKeys, books.pending, IsPending, IsPending, History.since_append_of_neutral]
    intro entry member
    exact ⟨not_queues_focus member, not_ends_focus member⟩
  · intro marked member eligible
    rcases List.mem_map.mp member with ⟨read, inTable, rfl⟩
    split at eligible
    next isIn =>
      rw [if_pos isIn]
      have pending := (books.pending read.toReadKey).mp (List.mem_map_of_mem inTable)
      exact pending.seen_focus (own read.toReadKey isIn)
    next isOut =>
      rw [if_neg isOut]
      exact (books.seen read inTable eligible).append fun _ => not_ends_focus
  · apply History.justified_append_of_forall books.justified
    intro entry member before
    rcases List.mem_map.mp member with ⟨place, _, rfl⟩
    trivial

theorem queued (books : Books reads history) (fresh : key ∉ reads.map (·.toReadKey))
    (focused : Bool) :
    Books (reads ++ [{ toReadKey := key, eligible := focused }])
      (history ++ [.queued key focused]) := by
  refine ⟨?_, ?_, ?_, ?_⟩
  · simpa [List.concat_eq_append] using books.distinct.concat fresh
  · intro other
    rw [List.map_append, List.mem_append, IsPending, History.since_concat, ← IsPending,
      ← books.pending]
    constructor
    · rintro (before | isNew)
      · exact Or.inr ⟨before, id⟩
      · exact Or.inl (List.mem_singleton.mp isNew).symm
    · rintro (isNew | ⟨before, _⟩)
      · exact Or.inr (List.mem_singleton.mpr (Eq.symm isNew))
      · exact Or.inl before
  · intro read member eligible
    rcases List.mem_append.mp member with before | isNew
    · exact (books.seen read before eligible).append (by simp [ReadEntry.Ends])
    · rw [List.mem_singleton.mp isNew] at eligible ⊢
      have hadFocus : focused = true := eligible
      exact hadFocus ▸ seen_queued history key
  · apply History.justified_concat books.justified
    exact fun pending => fresh ((books.pending key).mpr pending)

theorem deactivated (books : Books reads history) (group : String) :
    Books (reads.filter (·.chatId ≠ some group)) (history ++ [.deactivated group]) := by
  refine books.filter (by trivial) (fun _ => id) ?_
  simp [ReadEntry.Ends]

end Books

/-! ## A flush -/

variable {moment : ReadMoment} {run : ReadRun}

theorem lastAnswer_concat (history : List ReadEntry) (key : ReadKey) (status : SignalStatus) :
    lastAnswer (history ++ [.markRead key status]) = some status := by
  simp [lastAnswer, ReadEntry.answer]

theorem lastAnswer_append (noAttempt : ∀ entry ∈ entries, entry.answer = none) :
    lastAnswer (history ++ entries) = lastAnswer history := by
  have none : entries.filterMap ReadEntry.answer = [] := List.filterMap_eq_nil_iff.mpr noAttempt
  rw [lastAnswer, List.filterMap_append, none, List.append_nil]
  rfl

@[simp] theorem pendingReads_schedulePendingReadRetry (run : ReadRun) :
    run.schedulePendingReadRetry.pendingReads = run.pendingReads := by
  unfold schedulePendingReadRetry
  split <;> rfl

theorem retryArmed_schedulePendingReadRetry (open_ : run.closing = false)
    (hasCore : run.core = true) : run.schedulePendingReadRetry.retryArmed = true := by
  unfold schedulePendingReadRetry
  split
  · rfl
  · simp_all

structure Flushed (run : ReadRun) (reads : List SignalPendingRead) (history : List ReadEntry)
    (after : ReadRun × List ReadEntry) : Prop where
  books : Books after.1.pendingReads (history ++ after.2)
  sublist : after.1.pendingReads.Sublist run.pendingReads
  closing : after.1.closing = run.closing
  core : after.1.core = run.core
  /-- Either every eligible entry is gone, or the last attempt is repeated. -/
  settled : run.closing = false → run.core = true →
    (∀ read ∈ reads, read.eligible = true → read ∉ after.1.pendingReads) ∨
      after.1.retryArmed = true ∨ lastAnswer (history ++ after.2) = some .notReady

theorem flushLoop_of_no_core (noCore : run.core = false) :
    flushLoop moment reads run = (run, []) := by
  induction reads with
  | nil => rfl
  | cons read later induction =>
      unfold flushLoop
      split
      · simp [sendRead, noCore]
      · exact induction

theorem flushLoop_of_eligible {read : SignalPendingRead} {later : List SignalPendingRead}
    (eligible : read.eligible = true) (hasCore : run.core = true) {status : SignalStatus}
    (answers : moment.markRead run.nextRequestId read.toReadKey = status) :
    flushLoop moment (read :: later) run =
      let sent := { run with nextRequestId := run.nextRequestId + 1 }
      if status = .queueFull then
        (sent.schedulePendingReadRetry, [.markRead read.toReadKey status])
      else if status = .notReady then (sent, [.markRead read.toReadKey status])
      else
        let rest := flushLoop moment later (sent.remove read.toReadKey)
        (rest.1, .markRead read.toReadKey status :: rest.2) := by
  subst answers
  rw [flushLoop, if_pos eligible]
  simp only [sendRead, hasCore, if_true]
  cases moment.markRead run.nextRequestId read.toReadKey <;> rfl

theorem Flushed.of_remove {read : SignalPendingRead} {status : SignalStatus} {requestId : UInt64}
    {after : ReadRun × List ReadEntry}
    (rest : Flushed ({ run with nextRequestId := requestId }.remove read.toReadKey) reads
      (history ++ [.markRead read.toReadKey status]) after) :
    Flushed run (read :: reads) history
      (after.1, .markRead read.toReadKey status :: after.2) where
  books := by simpa using rest.books
  sublist := rest.sublist.trans List.filter_sublist
  closing := rest.closing
  core := rest.core
  settled := by
    intro isOpen hasCore
    refine (rest.settled isOpen hasCore).imp ?_ ?_
    · intro gone
      refine List.forall_mem_cons.mpr ⟨fun _ stays => ?_, gone⟩
      have differs := (List.mem_filter.mp (rest.sublist.subset stays)).2
      simp at differs
    · exact Or.imp id (by simp)

theorem flushed_flushLoop (books : Books run.pendingReads history)
    (inTable : ∀ read ∈ reads, read ∈ run.pendingReads)
    (distinct : (reads.map (·.toReadKey)).Nodup) :
    Flushed run reads history (flushLoop moment reads run) := by
  cases hasCore : run.core with
  | false =>
      rw [flushLoop_of_no_core hasCore]
      refine ⟨by simpa using books, List.Sublist.refl _, rfl, rfl, ?_⟩
      simp [hasCore]
  | true =>
      induction reads generalizing run history with
      | nil =>
          refine ⟨by simpa [flushLoop] using books, List.Sublist.refl _, rfl, rfl, ?_⟩
          simp
      | cons read later induction =>
          have ⟨isHead, inLater⟩ := List.forall_mem_cons.mp inTable
          have ⟨notLater, distinctLater⟩ := List.nodup_cons.mp distinct
          cases eligible : read.eligible with
          | false =>
              have rest := induction books inLater distinctLater hasCore
              rw [flushLoop, if_neg (by simp [eligible])]
              refine ⟨rest.books, rest.sublist, rest.closing, rest.core, ?_⟩
              simpa [eligible] using rest.settled
          | true =>
              have seen := books.seen read isHead eligible
              rw [flushLoop_of_eligible eligible hasCore rfl]
              generalize moment.markRead run.nextRequestId read.toReadKey = status
              dsimp only
              split
              next full =>
                refine ⟨by simpa using books.kept seen (Or.inl full), by simp, ?_, ?_, ?_⟩
                · unfold schedulePendingReadRetry; split <;> rfl
                · unfold schedulePendingReadRetry; split <;> rfl
                · intro isOpen _
                  exact Or.inr (Or.inl (retryArmed_schedulePendingReadRetry isOpen hasCore))
              next notFull =>
                split
                next unready =>
                  refine ⟨books.kept seen (Or.inr unready), List.Sublist.refl _, rfl, rfl, ?_⟩
                  intro _ _
                  exact Or.inr (Or.inr (by rw [lastAnswer_concat, unready]))
                next notUnready =>
                  have stays : ∀ other ∈ later, other ∈
                      run.pendingReads.filter (·.toReadKey ≠ read.toReadKey) := by
                    intro other member
                    have differs : other.toReadKey ≠ read.toReadKey := fun same =>
                      notLater (List.mem_map.mpr ⟨other, member, same⟩)
                    exact List.mem_filter.mpr ⟨inLater other member, by simpa using differs⟩
                  apply Flushed.of_remove
                  exact induction (books.removed seen notFull notUnready) stays distinctLater hasCore

theorem resetWarning_spec (run : ReadRun) :
    run.resetWarning.pendingReads = run.pendingReads ∧
      run.resetWarning.closing = run.closing ∧ run.resetWarning.core = run.core ∧
      run.resetWarning.retryArmed = run.retryArmed := by
  unfold resetWarning
  split <;> simp

/-- No eligible entry is left behind by a flush. -/
theorem flushed_flushPendingReads (books : Books run.pendingReads history) :
    Flushed run run.pendingReads history (run.flushPendingReads moment) := by
  have flushed : Flushed run (moment.order.list run.pendingReads) history
      (flushLoop moment (moment.order.list run.pendingReads) run) :=
    flushed_flushLoop books (fun _ => moment.order.mem_list.mp)
      (moment.order.nodup_map_list books.distinct)
  have ⟨sameReads, sameClosing, sameCore, sameArmed⟩ :=
    resetWarning_spec (flushLoop moment (moment.order.list run.pendingReads) run).1
  unfold flushPendingReads
  refine ⟨?_, ?_, ?_, ?_, ?_⟩
  · rw [sameReads]; exact flushed.books
  · rw [sameReads]; exact flushed.sublist
  · rw [sameClosing]; exact flushed.closing
  · rw [sameCore]; exact flushed.core
  · rw [sameReads, sameArmed]
    simpa using flushed.settled

theorem Flushed.noneStranded {after : ReadRun × List ReadEntry}
    (flushed : Flushed run run.pendingReads history after) :
    after.1.NoneStranded (history ++ after.2) := by
  rintro isOpen hasCore ⟨read, member, eligible⟩
  rcases flushed.settled (flushed.closing ▸ isOpen) (flushed.core ▸ hasCore) with gone | repeats
  · exact absurd member (gone read (flushed.sublist.subset member) eligible)
  · exact repeats

/-! ## The steps -/

structure Holds (run : ReadRun) (history : List ReadEntry) : Prop where
  books : Books run.pendingReads history
  bounded : run.pendingReads.length ≤ maxPendingReads
  noneStranded : run.NoneStranded history

variable {next : ReadRun}

theorem Flushed.holds {after : ReadRun × List ReadEntry}
    (flushed : Flushed run run.pendingReads history after)
    (bounded : run.pendingReads.length ≤ maxPendingReads) :
    Holds after.1 (history ++ after.2) :=
  ⟨flushed.books, Nat.le_trans flushed.sublist.length_le bounded, flushed.noneStranded⟩

theorem NoneStranded.keep (settled : run.NoneStranded history)
    (isOpen : next.closing = false → run.closing = false) (sameCore : next.core = run.core)
    (sameArmed : next.retryArmed = run.retryArmed)
    (earlier : ∀ read ∈ next.pendingReads, read.eligible = true → read ∈ run.pendingReads)
    (noAttempt : ∀ entry ∈ entries, entry.answer = none) :
    next.NoneStranded (history ++ entries) := by
  rintro nextOpen hasCore ⟨read, member, eligible⟩
  rw [lastAnswer_append noAttempt, sameArmed]
  exact settled (isOpen nextOpen) (sameCore ▸ hasCore) ⟨read, earlier read member eligible, eligible⟩

namespace Holds

theorem silent (holds : Holds run history) (sameReads : next.pendingReads = run.pendingReads)
    (isOpen : next.closing = false → run.closing = false) (sameCore : next.core = run.core)
    (sameArmed : next.retryArmed = run.retryArmed) : Holds next (history ++ []) where
  books := by
    rw [sameReads, List.append_nil]
    exact holds.books
  bounded := sameReads ▸ holds.bounded
  noneStranded :=
    holds.noneStranded.keep isOpen sameCore sameArmed (fun read member _ => sameReads ▸ member)
      (by simp)

theorem added (books : Books run.pendingReads history)
    (room : run.pendingReads.length < maxPendingReads)
    (fresh : key ∉ run.pendingReads.map (·.toReadKey)) {focused : Bool}
    (settled : focused = false → run.NoneStranded history) {flushed : ReadRun × List ReadEntry}
    (isFlushed : (if focused then flushPendingReads moment { run with
      pendingReads := run.pendingReads ++ [{ toReadKey := key, eligible := focused }] }
      else ({ run with
        pendingReads := run.pendingReads ++ [{ toReadKey := key, eligible := focused }] }, [])) =
      flushed) :
    Holds flushed.1 (history ++ .queued key focused :: flushed.2) := by
  have queued := books.queued fresh focused
  have bounded : (run.pendingReads ++
      [SignalPendingRead.mk key focused]).length ≤ maxPendingReads := by
    rw [List.length_append]
    exact room
  rw [List.append_cons]
  cases focused with
  | true =>
      subst isFlushed
      exact (flushed_flushPendingReads queued).holds bounded
  | false =>
      subst isFlushed
      refine ⟨by simpa using queued, bounded, ?_⟩
      simp only [Bool.false_eq_true, if_false, List.append_nil]
      refine (settled rfl).keep id rfl rfl ?_ (by simp [ReadEntry.answer])
      intro read member eligible
      rcases List.mem_append.mp member with before | isNew
      · exact before
      · rw [List.mem_singleton.mp isNew] at eligible
        cases eligible

theorem addRead (books : Books run.pendingReads history)
    (bounded : run.pendingReads.length ≤ maxPendingReads)
    (fresh : key ∉ run.pendingReads.map (·.toReadKey)) {focused : Bool}
    (settled : focused = false → run.NoneStranded history) :
    Holds (run.addRead moment key focused).1 (history ++ (run.addRead moment key focused).2) := by
  unfold ReadRun.addRead
  by_cases full : maxPendingReads ≤ run.pendingReads.length
  · rw [if_pos full]
    have flushed : Flushed run run.pendingReads history (run.flushPendingReads moment) :=
      flushed_flushPendingReads books
    have holds := flushed.holds bounded
    dsimp only
    split
    next => exact ⟨holds.books, holds.bounded, holds.noneStranded⟩
    next room =>
      rw [← List.append_assoc]
      apply added holds.books (Nat.not_le.mp room) _ (fun _ => holds.noneStranded) rfl
      exact fun stays => fresh ((flushed.sublist.map _).subset stays)
  · rw [if_neg full, if_neg full]
    exact added books (Nat.not_le.mp full) fresh settled rfl

theorem place_of_isIn {own : ReadKey}
    (isIn : key.isIn (if own.chatId.isNone then some own.peerId else none) own.chatId = true) :
    key.place ∈ [own.place] := by
  rw [List.mem_singleton]
  unfold ReadKey.isIn at isIn
  unfold ReadKey.place
  cases ownGroup : own.chatId <;> cases group : key.chatId <;> simp_all

theorem queueIncoming (holds : Holds run history) (key : ReadKey) (focused : Bool) :
    Holds (run.queueIncoming moment key focused).1
      (history ++ (run.queueIncoming moment key focused).2) := by
  unfold ReadRun.queueIncoming
  cases focused with
  | false =>
      simp only [Bool.false_eq_true, if_false, List.nil_append]
      split
      next => exact holds.silent rfl id rfl rfl
      next fresh =>
        apply addRead holds.books holds.bounded _ fun _ => holds.noneStranded
        simpa using fresh
  | true =>
      simp only [if_true]
      generalize isMarked : run.markEligible _ key.chatId = marked
      have books : Books marked.pendingReads (history ++ [key.place].map .focus) := by
        subst isMarked
        exact holds.books.focused fun _ => place_of_isIn
      have bounded : marked.pendingReads.length ≤ maxPendingReads := by
        subst isMarked
        simpa [markEligible] using holds.bounded
      split
      next =>
        rw [← List.append_assoc]
        exact (flushed_flushPendingReads books).holds bounded
      next fresh =>
        rw [← List.append_assoc]
        apply addRead books bounded _ (by simp)
        subst isMarked
        rw [markEligible, keys_marked]
        simpa using fresh

theorem queueRead (holds : Holds run history) (conversationFocus : Option Bool)
    (event : SignalEvent) :
    Holds (run.queueRead moment conversationFocus event).1
      (history ++ (run.queueRead moment conversationFocus event).2) := by
  have unchanged : Holds run (history ++ []) := holds.silent rfl id rfl rfl
  unfold ReadRun.queueRead
  split
  next => exact unchanged
  next =>
    split
    next => exact unchanged
    next => exact holds.queueIncoming _ _

theorem deactivateGroup (holds : Holds run history) (group : String) :
    Holds (run.removeGroupPendingReads group) (history ++ [.deactivated group]) := by
  have ⟨sameReads, sameClosing, sameCore, sameArmed⟩ := resetWarning_spec
    { run with pendingReads := run.pendingReads.filter (·.chatId ≠ some group) }
  unfold removeGroupPendingReads
  refine ⟨?_, ?_, ?_⟩
  · rw [sameReads]
    exact holds.books.deactivated group
  · rw [sameReads]
    exact Nat.le_trans (List.length_filter_le _ _) holds.bounded
  · apply holds.noneStranded.keep (fun isOpen => sameClosing ▸ isOpen) sameCore sameArmed
    · intro read member _
      rw [sameReads] at member
      exact List.mem_of_mem_filter member
    · simp [ReadEntry.answer]

theorem conversationUpdated (holds : Holds run history) (conversation : UpdatedConversation) :
    Holds (run.conversationUpdated moment conversation).1
      (history ++ (run.conversationUpdated moment conversation).2) := by
  unfold ReadRun.conversationUpdated
  split
  next => exact holds.silent rfl id rfl rfl
  next =>
    have books : Books
        (run.markEligible conversation.directPeer conversation.groupKey).pendingReads
        (history ++ conversation.places.map .focus) := by
      apply holds.books.focused
      intro key isIn
      unfold ReadKey.isIn at isIn
      unfold ReadKey.place UpdatedConversation.places
      cases group : key.chatId <;> cases type : conversation.type <;>
        simp_all [UpdatedConversation.directPeer, UpdatedConversation.groupKey]
    dsimp only
    rw [← List.append_assoc]
    apply (flushed_flushPendingReads books).holds
    simpa [markEligible] using holds.bounded

theorem retryPendingReads (holds : Holds run history) :
    Holds (run.retryPendingReads moment).1 (history ++ (run.retryPendingReads moment).2) := by
  unfold ReadRun.retryPendingReads
  dsimp only
  split
  next =>
    have books : Books { run with retryArmed := false }.pendingReads history := holds.books
    exact (flushed_flushPendingReads books).holds holds.bounded
  next idle =>
    refine ⟨by simpa using holds.books, holds.bounded, ?_⟩
    intro isOpen hasCore
    exact absurd (by simp_all) idle

theorem step (holds : Holds run history) {label : ReadLabel}
    (stepped : run.step label = some (next, entries)) : Holds next (history ++ entries) := by
  cases label with
  | queueRead moment conversationFocus event =>
      obtain ⟨rfl, rfl⟩ := Machine.reached_of_some stepped
      exact holds.queueRead conversationFocus event
  | conversationUpdated moment conversation =>
      obtain ⟨rfl, rfl⟩ := Machine.reached_of_some stepped
      exact holds.conversationUpdated conversation
  | retryTimer moment =>
      simp only [ReadRun.step, Option.ite_none_right_eq_some] at stepped
      obtain ⟨rfl, rfl⟩ := Machine.reached_of_some stepped.2
      exact holds.retryPendingReads
  | ready moment =>
      cases stepped
      exact (flushed_flushPendingReads holds.books).holds holds.bounded
  | deactivateGroup group =>
      cases stepped
      exact holds.deactivateGroup group
  | otherRequest =>
      cases stepped
      exact holds.silent rfl id rfl rfl
  | close =>
      cases stepped
      exact holds.silent rfl (fun isOpen => by cases isOpen) rfl rfl

end Holds

/-- In every run: no receipt is pending twice and at most 4096 are; the core is asked to mark a
message read only after its conversation had the focus; a receipt is pending from when it is
queued until the core takes or rejects it or its group is gone; and an eligible one is retried
by the timer or when the core is ready. -/
theorem readLaw_of_run {core : Bool} {labels : List ReadLabel}
    (reached : (machine core).run labels = some (run, history)) : ReadLaw run history := by
  have starts : Holds (machine core).initial [] := by
    refine ⟨⟨List.nodup_nil, ?_, ?_, History.justified_nil _⟩, Nat.zero_le _, ?_⟩
    · simp [machine, IsPending]
    · simp [machine]
    · intro _ _ someRead
      simp [machine] at someRead
  have holds : Holds run history :=
    (machine core).run_invariant starts (fun _ _ _ _ _ holds stepped => holds.step stepped) reached
  exact ⟨holds.books.distinct, holds.bounded, holds.books.pending, holds.books.justified,
    holds.noneStranded⟩

def shownMessage (timestampMs : UInt64) : SignalEvent where
  abiVersion := SignalPurple.abiVersion
  structSize := signalEventSize
  kind := EventKind.message.code
  requestId := 1
  timestampMs
  peerId := some "alice"
  text := some "hello"

/-- The second message finds the focus and a full queue; the timer then finds the core not
ready, and the core takes both when it is. -/
def readAfterRecovery : List ReadLabel :=
  let answering (status : SignalStatus) : ReadMoment := { markRead := fun _ _ => status }
  [.queueRead (answering .ok) (some false) (shownMessage 100),
    .queueRead (answering .queueFull) (some true) (shownMessage 101),
    .retryTimer (answering .notReady), .ready (answering .ok)]

def readAfterRecoveryShows : List ReadEntry :=
  let key (timestamp : UInt64) : ReadKey := { peerId := "alice", chatId := none, timestamp }
  [.queued (key 100) false, .focus (.direct "alice"), .queued (key 101) true,
    .markRead (key 100) .queueFull, .markRead (key 100) .notReady, .markRead (key 100) .ok,
    .markRead (key 101) .ok]

theorem readLaw_of_readAfterRecovery :
    ∃ run, (machine true).run readAfterRecovery = some (run, readAfterRecoveryShows) ∧
      run.pendingReads = [] ∧ ReadLaw run readAfterRecoveryShows := by
  have checked : ((machine true).run readAfterRecovery).any (fun reached =>
      reached.2 = readAfterRecoveryShows ∧ reached.1.pendingReads.isEmpty) = true := by
    decide +kernel
  rcases (Option.any_eq_true _ _).mp checked with ⟨⟨run, history⟩, reached, holds⟩
  rcases of_decide_eq_true holds with ⟨rfl, empty⟩
  exact ⟨run, reached, List.isEmpty_iff.mp empty, readLaw_of_run reached⟩

end ReadRun

end SignalPurple
