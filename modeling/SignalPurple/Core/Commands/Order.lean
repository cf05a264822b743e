import Mathlib.Data.List.Nodup
import Mathlib.Data.List.Range
import SignalPurple.Core.Commands

/-! # The order of the commands

What was executed, what is deferred and what is in the channel are, one after the other, the
accepted commands without the dropped typing notices. This is what every switch between
recovery and dispatch keeps, because a command is deferred behind those that are deferred
already and executed from their front.
-/

namespace SignalPurple

namespace CommandEntry

def accepted? : CommandEntry → Option Submission
  | .accepted submission => some submission
  | _ => none

def executed? : CommandEntry → Option Submission
  | .executed submission => some submission
  | _ => none

end CommandEntry

namespace CommandRun

def accepted (history : List CommandEntry) : List Submission :=
  history.filterMap CommandEntry.accepted?

def executed (history : List CommandEntry) : List Submission :=
  history.filterMap CommandEntry.executed?

/-- A typing notice that was received while the session was not ready. -/
def isLeftOut (history : List CommandEntry) (submission : Submission) : Bool :=
  submission.command.isSetTyping && decide (.received submission false ∈ history)

/-- The accepted commands that are to be executed. -/
def kept (history : List CommandEntry) : List Submission :=
  (accepted history).filter fun submission => !isLeftOut history submission

structure CommandLaw (run : CommandRun) (history : List CommandEntry) : Prop where
  ordered : executed history <+: kept history
  once : (executed history).Nodup
  conserved : run.connection.control ≠ .stopped →
    executed history ++ run.deferredCommands ++ run.commands = kept history

variable {history : List CommandEntry} {submission : Submission}
  {deferred commands : List Submission}

/-! ## What is kept -/

@[simp] theorem accepted_append (history entries : List CommandEntry) :
    accepted (history ++ entries) = accepted history ++ accepted entries :=
  List.filterMap_append

@[simp] theorem executed_append (history entries : List CommandEntry) :
    executed (history ++ entries) = executed history ++ executed entries :=
  List.filterMap_append

@[simp] theorem accepted_accepted : accepted [.accepted submission] = [submission] := rfl
@[simp] theorem accepted_received {ready : Bool} : accepted [.received submission ready] = [] := rfl
@[simp] theorem accepted_executed : accepted [.executed submission] = [] := rfl
@[simp] theorem executed_accepted : executed [.accepted submission] = [] := rfl
@[simp] theorem executed_received {ready : Bool} : executed [.received submission ready] = [] := rfl
@[simp] theorem executed_executed : executed [.executed submission] = [submission] := rfl

theorem kept_executed : kept (history ++ [.executed submission]) = kept history := by
  simp [kept, isLeftOut]

theorem kept_accepted (unreceived : .received submission false ∉ history) :
    kept (history ++ [.accepted submission]) = kept history ++ [submission] := by
  simp [kept, isLeftOut, List.filter_append, unreceived]

theorem kept_received {ready : Bool}
    (stays : submission.command.isSetTyping = false ∨ ready = true) :
    kept (history ++ [.received submission ready]) = kept history := by
  unfold kept
  rw [accepted_append, accepted_received, List.append_nil]
  apply List.filter_congr
  intro other _
  unfold isLeftOut
  by_cases isIt : other = submission
  · rcases stays with notTyping | isReady
    · simp [isIt, notTyping]
    · simp [isReady]
  · simp [isIt]

theorem kept_dropped (typing : submission.command.isSetTyping = true) :
    kept (history ++ [.received submission false]) =
      (kept history).filter (· ≠ submission) := by
  unfold kept
  rw [accepted_append, accepted_received, List.append_nil, List.filter_filter]
  apply List.filter_congr
  intro other _
  unfold isLeftOut
  by_cases isIt : other = submission
  · simp [isIt, typing]
  · simp [isIt]

theorem filter_ne_middle {before after : List Submission}
    (distinct : (before ++ submission :: after).Nodup) :
    (before ++ submission :: after).filter (· ≠ submission) = before ++ after := by
  have ⟨notBoth, _⟩ := List.nodup_middle.mp distinct |> List.nodup_cons.mp
  rw [List.filter_append, List.filter_cons_of_neg (by simp), ← List.filter_append,
    List.filter_eq_self]
  intro other member
  have differs : other ≠ submission := by
    rintro rfl
    exact notBoth member
  simpa using differs

/-! ## Deferring and executing -/

structure Books (deferred commands : List Submission) (history : List CommandEntry) : Prop where
  conserved : executed history ++ deferred ++ commands = kept history
  distinct : (accepted history).Nodup
  unreceived : ∀ submission ∈ commands, ∀ ready, .received submission ready ∉ history
  known : ∀ submission ready, .received submission ready ∈ history →
    submission ∈ accepted history

namespace Books

theorem nodup (books : Books deferred commands history) :
    (executed history ++ deferred ++ commands).Nodup := by
  rw [books.conserved]
  exact books.distinct.filter _

theorem mem_accepted (books : Books deferred commands history) (waits : submission ∈ commands) :
    submission ∈ accepted history := by
  have inKept : submission ∈ kept history := by
    rw [← books.conserved]
    exact List.mem_append_right _ waits
  exact List.mem_of_mem_filter inKept

theorem received {deferred later : List Submission} {ready : Bool}
    (books : Books deferred (submission :: commands) history)
    (conserved : executed history ++ later ++ commands =
      kept (history ++ [.received submission ready])) :
    Books later commands (history ++ [.received submission ready]) where
  conserved := by simpa using conserved
  distinct := by simpa using books.distinct
  unreceived other member ready' := by
    have differs : other ≠ submission := by
      rintro rfl
      exact (List.nodup_cons.mp (List.nodup_append.mp books.nodup).2.1).1 member
    simp [books.unreceived other (List.mem_cons_of_mem _ member), differs]
  known other ready' isReceived := by
    rw [accepted_append]
    apply List.mem_append_left
    rcases List.mem_append.mp isReceived with before | now
    · exact books.known other ready' before
    · cases List.mem_singleton.mp now
      exact books.mem_accepted List.mem_cons_self

theorem handleRecovery (books : Books deferred (submission :: commands) history) :
    Books (handleRecoveryCommand submission deferred) commands
      (history ++ [.received submission false]) := by
  apply books.received
  cases typing : submission.command.isSetTyping with
  | true =>
      have dropped : handleRecoveryCommand submission deferred = deferred := by
        unfold handleRecoveryCommand
        split <;> simp_all [WorkerCommand.isSetTyping]
      rw [dropped, kept_dropped typing, ← books.conserved, filter_ne_middle books.nodup]
  | false =>
      have added : handleRecoveryCommand submission deferred = deferred ++ [submission] := by
        unfold handleRecoveryCommand
        split <;> simp_all [WorkerCommand.isSetTyping]
      rw [added, kept_received (Or.inl typing), ← books.conserved]
      simp

theorem drain (books : Books deferred commands history) :
    Books (drainRecoveryCommands false commands deferred).1 []
      (history ++ (drainRecoveryCommands false commands deferred).2) := by
  induction commands generalizing deferred history with
  | nil => simpa [drainRecoveryCommands] using books
  | cons submission later induction =>
      have rest := induction books.handleRecovery
      simpa [drainRecoveryCommands] using rest

theorem executeDeferred (books : Books (submission :: deferred) commands history) :
    Books deferred commands (history ++ [.executed submission]) where
  conserved := by
    rw [kept_executed, ← books.conserved]
    simp
  distinct := by simpa using books.distinct
  unreceived other member ready := by simpa using books.unreceived other member ready
  known other ready isReceived := by
    simpa using books.known other ready (by simpa using isReceived)

theorem executeReceived (books : Books [] (submission :: commands) history) :
    Books [] commands (history ++ [.received submission true, .executed submission]) := by
  have taken : Books [submission] commands (history ++ [.received submission true]) := by
    apply books.received
    rw [kept_received (Or.inr rfl), ← books.conserved]
    simp
  simpa using taken.executeDeferred

theorem accept (books : Books deferred commands history) (fresh : submission ∉ accepted history) :
    Books deferred (commands ++ [submission]) (history ++ [.accepted submission]) := by
  have unreceived : ∀ ready, .received submission ready ∉ history := by
    intro ready isReceived
    exact fresh (books.known submission ready isReceived)
  refine ⟨?_, ?_, ?_, ?_⟩
  · rw [kept_accepted (unreceived false), ← books.conserved]
    simp
  · simpa [List.concat_eq_append] using books.distinct.concat fresh
  · intro other member ready
    rcases List.mem_append.mp member with before | isNew
    · simpa using books.unreceived other before ready
    · rw [List.mem_singleton.mp isNew]
      simpa using unreceived ready
  · intro other ready isReceived
    rw [accepted_append]
    exact List.mem_append_left _ (books.known other ready (by simpa using isReceived))

end Books

end CommandRun

/-! ## The connection -/

namespace Connection

variable {connection next : Connection} {label : ConnectionLabel}
  {entries : List ConnectionEntry}

theorem running_of_step (stepped : connection.step label = some (next, entries))
    (running : next.control ≠ .stopped) : connection.control ≠ .stopped := by
  intro stopped
  cases transition_of_step stepped <;> simp_all

theorem stopped_of_permanent {error : ReceiveStartError} (permanent : error.isTransient = false)
    (stepped : connection.step (.receiveStarted (.error error)) = some (next, entries)) :
    next.control = .stopped := by
  simp only [step, Option.ite_none_right_eq_some] at stepped
  have advanced := stepped.2
  have failed : connection.receiveStarted (.error error) = some (next, entries) := by
    unfold advance at advanced
    cases control : connection.control <;> rw [control] at advanced
    case connecting => exact advanced
    all_goals cases advanced
  simp only [receiveStarted, permanent, Bool.false_eq_true, if_false] at failed
  rcases projecting_eq_some failed with ⟨reached, shown, _, rfl, _⟩
  rfl

/-- Only a session that recovers is waited out. -/
def WaitsToRecover (connection : Connection) : Prop :=
  connection.control = .waitingOut → connection.session.isRecovering = true

theorem WaitsToRecover.step (waits : connection.WaitsToRecover)
    (stepped : connection.step label = some (next, entries)) : next.WaitsToRecover := by
  intro isWaiting
  cases transition_of_step stepped with
  | projection | waitWith | waitOn => exact waits isWaiting
  | restart =>
      unfold restart at isWaiting ⊢
      split at isWaiting
      next => simp at isWaiting
      next recovering =>
        rw [if_neg recovering]
        have isRecovering : connection.session.isRecovering = true := by simpa using recovering
        exact isRecovering
  | receiveReady =>
      simp only at isWaiting
      split at isWaiting <;> cases isWaiting
  | popped control =>
      rw [control] at isWaiting
      cases isWaiting
  | queueEmpty =>
      simp only [queueEmpty] at isWaiting
      split at isWaiting <;> cases isWaiting
  | _ => cases isWaiting

end Connection

namespace CommandRun

variable {run next : CommandRun} {label : CommandLabel} {history entries : List CommandEntry}

structure Holds (run : CommandRun) (history : List CommandEntry) : Prop where
  books : run.connection.control ≠ .stopped →
    Books run.deferredCommands run.commands history
  ordered : executed history <+: kept history
  numbers : (accepted history).map Submission.number = List.range run.submitted
  waits : run.connection.WaitsToRecover

theorem Books.ordered {deferred commands : List Submission}
    (books : Books deferred commands history) : executed history <+: kept history :=
  ⟨deferred ++ commands, by rw [← List.append_assoc, books.conserved]⟩

theorem accepted_drain (ready : Bool) (commands deferred : List Submission) :
    accepted (drainRecoveryCommands ready commands deferred).2 = [] := by
  induction commands generalizing deferred with
  | nil => rfl
  | cons submission later induction =>
      exact induction (handleRecoveryCommand submission deferred)

namespace Holds

theorem initial : Holds {} [] := by
  refine ⟨fun _ => ⟨rfl, List.nodup_nil, ?_, ?_⟩, List.prefix_rfl, rfl, ?_⟩
  · simp
  · simp
  · simp [Connection.WaitsToRecover]

theorem distinct (holds : Holds run history) : (accepted history).Nodup := by
  apply List.Nodup.of_map Submission.number
  rw [holds.numbers]
  exact List.nodup_range

theorem submit (holds : Holds run history) {command : WorkerCommand}
    (submitted : run.submit command = some (next, entries)) : Holds next (history ++ entries) := by
  unfold CommandRun.submit at submitted
  split at submitted
  next => cases submitted
  next room =>
    cases submitted
    have books := holds.books fun stopped => room (Or.inl stopped)
    have fresh : (⟨run.submitted, command⟩ : Submission) ∉ accepted history := by
      intro member
      have listed : run.submitted ∈ (accepted history).map Submission.number :=
        List.mem_map.mpr ⟨_, member, rfl⟩
      simp [holds.numbers] at listed
    have grown := books.accept fresh
    refine ⟨fun _ => grown, grown.ordered, ?_, holds.waits⟩
    simp [holds.numbers, List.range_succ]

theorem take (holds : Holds run history) (books : Books next.deferredCommands next.commands
      (history ++ entries)) (noneAccepted : accepted entries = [])
    (sameSubmitted : next.submitted = run.submitted) (waits : next.connection.WaitsToRecover) :
    Holds next (history ++ entries) where
  books _ := books
  ordered := books.ordered
  numbers := by rw [accepted_append, noneAccepted, List.append_nil, sameSubmitted, holds.numbers]
  waits := waits

theorem deferCommand (holds : Holds run history) (running : run.connection.control ≠ .stopped)
    (notReady : run.isReady = false) (taken : run.deferCommand = some (next, entries)) :
    Books next.deferredCommands next.commands (history ++ entries) ∧ accepted entries = [] ∧
      next.submitted = run.submitted := by
  unfold CommandRun.deferCommand at taken
  split at taken
  next => cases taken
  next submission commands isNext =>
    cases taken
    rw [notReady]
    have books := holds.books running
    rw [isNext] at books
    exact ⟨books.handleRecovery, rfl, rfl⟩

theorem dispatchCommand (holds : Holds run history) (running : run.connection.control ≠ .stopped)
    (taken : run.dispatchCommand = some (next, entries)) :
    Books next.deferredCommands next.commands (history ++ entries) ∧ accepted entries = [] ∧
      next.submitted = run.submitted := by
  have books := holds.books running
  unfold CommandRun.dispatchCommand at taken
  split at taken
  next =>
    split at taken
    next submission deferred isNext =>
      cases taken
      rw [isNext] at books
      exact ⟨books.executeDeferred, rfl, rfl⟩
    next noneDeferred =>
      split at taken
      next submission commands isNext =>
        cases taken
        rw [noneDeferred, isNext] at books
        rw [noneDeferred]
        exact ⟨books.executeReceived, rfl, rfl⟩
      next => cases taken
  next notReady => exact holds.deferCommand running (by simpa using notReady) taken

theorem not_ready_of_recovering {session : SessionState} (recovering : session.isRecovering = true) :
    session.isReady = false := by
  simp_all [SessionState.isRecovering, SessionState.isReady]

theorem takeCommand (holds : Holds run history) (taken : run.takeCommand = some (next, entries)) :
    Books next.deferredCommands next.commands (history ++ entries) ∧ accepted entries = [] ∧
      next.submitted = run.submitted := by
  unfold CommandRun.takeCommand at taken
  split at taken
  next control =>
    exact holds.deferCommand (by simp [control]) (not_ready_of_recovering (holds.waits control))
      taken
  next control =>
    rw [Option.ite_none_right_eq_some] at taken
    exact holds.deferCommand (by simp [control]) (not_ready_of_recovering taken.1) taken.2
  next control => exact holds.dispatchCommand (by simp [control]) taken
  next => cases taken

theorem withCommands (holds : Holds run history) {label : ConnectionLabel}
    {connection : Connection} {shown : List ConnectionEntry}
    (stepped : run.connection.step label = some (connection, shown)) :
    Holds (run.withCommands connection label).1
      (history ++ (run.withCommands connection label).2) := by
  have waits := holds.waits.step stepped
  have kept : Holds { run with connection } (history ++ []) := by
    rw [List.append_nil]
    exact ⟨fun running => holds.books (Connection.running_of_step stepped running),
      holds.ordered, holds.numbers, waits⟩
  unfold CommandRun.withCommands
  split
  next =>
    split
    next recovering =>
      have notReady : run.isReady = false := not_ready_of_recovering recovering
      have running := Connection.not_stopped_of_step stepped (by simp)
      have books := (holds.books running).drain
      rw [notReady]
      exact holds.take books (accepted_drain _ _ _) rfl waits
    next => exact kept
  next error =>
    split
    next => exact kept
    next permanent =>
      have stopped := Connection.stopped_of_permanent (by simpa using permanent) stepped
      rw [List.append_nil]
      exact ⟨fun running => absurd stopped running, holds.ordered, holds.numbers, waits⟩
  next => exact kept

theorem step (holds : Holds run history) (stepped : run.step label = some (next, entries)) :
    Holds next (history ++ entries) := by
  cases label with
  | submit command => exact holds.submit stepped
  | command =>
      simp only [CommandRun.step] at stepped
      split at stepped
      next connection shown taken seen moved isTaken =>
        cases stepped
        have ⟨books, noneAccepted, sameSubmitted⟩ := holds.takeCommand isTaken
        exact holds.take books noneAccepted sameSubmitted (holds.waits.step moved)
      next => cases stepped
  | connection label =>
      simp only [CommandRun.step] at stepped
      split at stepped
      next connection shown moved =>
        obtain ⟨rfl, rfl⟩ := Machine.reached_of_some stepped
        exact holds.withCommands moved
      next => cases stepped

theorem law (holds : Holds run history) : CommandLaw run history where
  ordered := holds.ordered
  once := (holds.distinct.filter _).sublist holds.ordered.sublist
  conserved running := (holds.books running).conserved

end Holds

/-- In every run the dispatch loop takes up the accepted commands in the order of submission,
each once, without the typing notices that were received while the session was not ready; and
until the worker stops, every other command still waits. -/
theorem commandLaw_of_run {labels : List CommandLabel}
    (reached : machine.run labels = some (run, history)) : CommandLaw run history := by
  have holds : Holds run history :=
    machine.run_invariant Holds.initial (fun _ _ _ _ _ holds stepped => holds.step stepped) reached
  exact holds.law

def startup : List CommandLabel :=
  [.connection .restart, .connection (.receiveStarted (.ok ())),
    .connection (.introduced (.ok ())), .connection (.loaded (.ok [])), .connection .prepared,
    .connection .round]

/-- A message is executed, the stream ends, a typing notice and two messages come during the
recovery, the first of them before its delay, and then the session is ready again. -/
def reconnected : List CommandLabel :=
  let message (requestId : UInt64) : CommandLabel :=
    .submit (.sendMessage requestId "alice" "hello")
  message 1 :: startup ++
    [.command, .connection .round, .connection (.received none), message 2,
      .submit (.setTyping 3 "alice" true), .connection .restart, message 4, .command,
      .connection .delayElapsed, .connection (.receiveStarted (.ok ())),
      .connection (.introduced (.ok ())), .connection (.loaded (.ok [])), .connection .prepared,
      .connection .round, .command, .connection .round, .command]

theorem commandLaw_of_reconnected :
    ∃ run history, machine.run reconnected = some (run, history) ∧
      (executed history).map Submission.number = [0, 1, 3] ∧ CommandLaw run history := by
  have executes : (machine.run reconnected).any (fun reached =>
      decide ((executed reached.2).map Submission.number = [0, 1, 3])) = true := by
    decide +kernel
  obtain ⟨⟨run, history⟩, reached, inOrder⟩ := (Option.any_eq_true _ _).mp executes
  exact ⟨run, history, reached, of_decide_eq_true inOrder, commandLaw_of_run reached⟩

end CommandRun

end SignalPurple
