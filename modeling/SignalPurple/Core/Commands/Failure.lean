import SignalPurple.Core.Commands.Order

/-! # Commands of a connection that is given up

If the receive driver fails for good, the worker refuses the deferred commands, each with an
error event for its request, and returns. It does not look into the channel once more. The
client may cancel an attachment all the while.
-/

namespace SignalPurple

namespace WorkerCommand

def requestId : WorkerCommand → UInt64
  | .sendMessage requestId _ _ | .sendGroupMessage requestId _ _ | .leaveGroup requestId _
  | .setTyping requestId _ _ | .acceptIdentity requestId _ | .dismissIdentity requestId _
  | .resetSession requestId _ | .markRead requestId _ _ => requestId
  | .sendAttachment attachment => attachment.requestId

/-- Nobody is told of a typing notice or of a read receipt that was not sent. -/
def isReportable : WorkerCommand → Bool
  | .setTyping _ _ _ | .markRead _ _ _ => false
  | _ => true

def control? : WorkerCommand → Option AttachmentControl
  | .sendAttachment attachment => some attachment.permit.control
  | _ => none

end WorkerCommand

def recoveryStopped : String :=
  "Signal connection recovery stopped before the request could be sent"

/-- The event of a command that will not be executed. An attachment has one only if the worker
is the first to end it. -/
def deferredCommandFailure (controls : AttachmentControls) (command : WorkerCommand)
    (message : String) : Option Event × AttachmentControls :=
  match command with
  | .leaveGroup requestId groupKey =>
      (some (Event.groupRequestError requestId groupKey message), controls)
  | .sendMessage requestId _ _ | .sendGroupMessage requestId _ _ | .acceptIdentity requestId _
  | .dismissIdentity requestId _ | .resetSession requestId _ =>
      (some (Event.requestError requestId message), controls)
  | .sendAttachment attachment =>
      let claim := controls.claimTerminal attachment.permit.control
      (if claim.1 then some (Event.requestError attachment.requestId message) else none, claim.2)
  | .setTyping _ _ _ | .markRead _ _ _ => (none, controls)

structure FailureRun where
  run : CommandRun := {}
  controls : AttachmentControls := {}
  /-- Once the connection is given up, the commands that are still to be refused. -/
  failing : Option (List Submission) := none

inductive FailureLabel where
  /-- A step of the connection and its commands. -/
  | commands (label : CommandLabel)
  /-- The client cancels an attachment. -/
  | cancel (control : AttachmentControl)
  /-- `fail_deferred_commands` takes the next command. -/
  | failNext

inductive FailureEntry where
  | command (entry : CommandEntry)
  /-- The receive driver has failed for good, and these commands are in the channel. -/
  | gaveUp (unread : List Submission)
  | reported (submission : Submission) (event : Event)
  deriving DecidableEq

def FailureEntry.command? : FailureEntry → Option CommandEntry
  | .command entry => some entry
  | .gaveUp _ | .reported _ _ => none

namespace CommandLabel

/-- The receive driver could not be started, and trying again is of no use. -/
def isPermanentFailure : CommandLabel → Bool
  | .connection (.receiveStarted (.error error)) => !error.isTransient
  | _ => false

/-- The control that an attachment is admitted with. -/
def control? : CommandLabel → Option AttachmentControl
  | .submit submitted => submitted.control?
  | _ => none

end CommandLabel

namespace FailureRun

/-- A step before the connection is given up, or the one that gives it up. An attachment has a
control of its own. -/
def commandStep (state : FailureRun) (label : CommandLabel) :
    Option (FailureRun × List FailureEntry) :=
  if state.failing.isSome || label.control?.any (· != state.controls.next) then none
  else
    (state.run.step label).map fun reached =>
      ({ run := reached.1
         controls := if label.control?.isSome then state.controls.new.2 else state.controls
         failing := if label.isPermanentFailure then some state.run.deferredCommands else none },
        reached.2.map .command ++
          if label.isPermanentFailure then [.gaveUp state.run.commands] else [])

def failNext (state : FailureRun) : Option (FailureRun × List FailureEntry) :=
  match state.failing with
  | some (submission :: rest) =>
      let failed := deferredCommandFailure state.controls submission.command recoveryStopped
      some ({ state with controls := failed.2, failing := some rest },
        (failed.1.map (.reported submission)).toList)
  | some [] | none => none

def step (state : FailureRun) : FailureLabel → Option (FailureRun × List FailureEntry)
  | .commands label => state.commandStep label
  | .cancel control => some ({ state with controls := (state.controls.cancel control).2 }, [])
  | .failNext => state.failNext

def machine : Machine FailureRun FailureLabel FailureEntry where
  initial := {}
  step := step

/-- Only the drain of the acknowledgments is left before the worker returns. -/
def IsThrough (state : FailureRun) : Prop := state.failing = some []

def isCancelled (state : FailureRun) (submission : Submission) : Bool :=
  submission.command.control?.any state.controls.isCancelled

def commandsOf (history : List FailureEntry) : List CommandEntry :=
  history.filterMap FailureEntry.command?

def Reported (submission : Submission) (history : List FailureEntry) : Prop :=
  ∃ event, .reported submission event ∈ history ∧ event.kind = .error ∧
    event.requestId = submission.command.requestId

end FailureRun

/-! ## The controls of attachments -/

namespace AttachmentControls

variable {controls : AttachmentControls} {control other : AttachmentControl}

theorem isCancelled_set (active : (controls.state other).lifecycle = .active)
    (cancelled : controls.isCancelled control = true) (state : AttachmentControlState) :
    (controls.set other state).isCancelled control = true := by
  by_cases same : control = other
  · simp [isCancelled, same, active] at cancelled
  · simpa [isCancelled, state_set_of_ne same] using cancelled

theorem isCancelled_cancel (cancelled : controls.isCancelled control = true) :
    (controls.cancel other).2.isCancelled control = true := by
  unfold cancel
  split
  next active => exact isCancelled_set active cancelled _
  next => exact cancelled

theorem isCancelled_claimTerminal (cancelled : controls.isCancelled control = true) :
    (controls.claimTerminal other).2.isCancelled control = true := by
  unfold claimTerminal
  split
  next active => exact isCancelled_set active cancelled _
  next => exact cancelled

theorem not_terminal_cancel (before : (controls.state control).lifecycle ≠ .terminal) :
    ((controls.cancel other).2.state control).lifecycle ≠ .terminal := by
  unfold cancel
  split
  · by_cases same : control = other
    · simp [same, set]
    · simpa [state_set_of_ne same] using before
  · exact before

theorem not_terminal_new (before : (controls.state control).lifecycle ≠ .terminal) :
    (controls.new.2.state control).lifecycle ≠ .terminal := by
  by_cases same : control = controls.next
  · simp [same, new, set]
  · simpa [new, state_set_of_ne same] using before

theorem isCancelled_of_not_claimed (unended : (controls.state control).lifecycle ≠ .terminal)
    (refused : (controls.claimTerminal control).1 = false) :
    controls.isCancelled control = true := by
  cases lifecycle : (controls.state control).lifecycle with
  | active => simp [claimTerminal, lifecycle] at refused
  | cancelled => simp [isCancelled, lifecycle]
  | terminal => exact absurd lifecycle unended

end AttachmentControls

/-! ## One refusal -/

section Refusal

variable {controls : AttachmentControls} {command : WorkerCommand} {message : String}

theorem next_deferredCommandFailure :
    (deferredCommandFailure controls command message).2.next = controls.next := by
  cases command <;> simp [deferredCommandFailure]

theorem isCancelled_deferredCommandFailure {control : AttachmentControl}
    (cancelled : controls.isCancelled control = true) :
    (deferredCommandFailure controls command message).2.isCancelled control = true := by
  cases command with
  | sendAttachment attachment => exact AttachmentControls.isCancelled_claimTerminal cancelled
  | _ => exact cancelled

theorem state_deferredCommandFailure {control : AttachmentControl}
    (apart : command.control? ≠ some control) :
    (deferredCommandFailure controls command message).2.state control = controls.state control := by
  cases command with
  | sendAttachment attachment =>
      exact AttachmentControls.state_claimTerminal_of_ne fun same => apart (by simp [same]; rfl)
  | _ => rfl

theorem deferredCommandFailure_spec (reportable : command.isReportable = true)
    (unclaimed : ∀ control, command.control? = some control →
      (controls.state control).lifecycle ≠ .terminal) (message : String) :
    command.control?.any (deferredCommandFailure controls command message).2.isCancelled = true ∨
      ∃ event, (deferredCommandFailure controls command message).1 = some event ∧
        event.kind = .error ∧ event.requestId = command.requestId := by
  cases command with
  | sendAttachment attachment =>
      cases claim : (controls.claimTerminal attachment.permit.control).1 with
      | true =>
          exact Or.inr ⟨Event.requestError attachment.requestId message,
            by simp [deferredCommandFailure, claim], rfl, rfl⟩
      | false =>
          have cancelled := AttachmentControls.isCancelled_of_not_claimed
            (unclaimed _ rfl) claim
          exact Or.inl (AttachmentControls.isCancelled_claimTerminal cancelled)
  | setTyping | markRead => cases reportable
  | _ => exact Or.inr ⟨_, rfl, rfl, rfl⟩

end Refusal

/-! ## What a step of the commands accepts -/

namespace CommandRun

variable {run next : CommandRun} {label : CommandLabel} {entries : List CommandEntry}

theorem accepted_of_takeCommand (taken : run.takeCommand = some (next, entries)) :
    accepted entries = [] := by
  have deferred : ∀ {next entries}, run.deferCommand = some (next, entries) →
      accepted entries = [] := by
    intro next entries taken
    unfold deferCommand at taken
    split at taken <;> cases taken
    rfl
  unfold takeCommand at taken
  split at taken
  · exact deferred taken
  · rw [Option.ite_none_right_eq_some] at taken
    exact deferred taken.2
  · unfold dispatchCommand at taken
    split at taken
    · split at taken
      · cases taken
        rfl
      · split at taken <;> cases taken
        rfl
    · exact deferred taken
  · cases taken

theorem accepted_of_step (stepped : run.step label = some (next, entries)) :
    (∃ command, label = .submit command ∧
        accepted entries = [{ number := run.submitted, command }]) ∨
      label.control? = none ∧ accepted entries = [] := by
  cases label with
  | submit command =>
      simp only [step, submit] at stepped
      split at stepped <;> cases stepped
      exact Or.inl ⟨command, rfl, rfl⟩
  | command =>
      simp only [step] at stepped
      split at stepped
      next isTaken =>
        cases stepped
        exact Or.inr ⟨rfl, accepted_of_takeCommand isTaken⟩
      next => cases stepped
  | connection label =>
      simp only [step] at stepped
      split at stepped
      next connection shown moved =>
        rcases Machine.reached_of_some stepped with ⟨rfl, rfl⟩
        refine Or.inr ⟨rfl, ?_⟩
        unfold withCommands
        split
        · split
          · exact accepted_drain _ _ _
          · rfl
        · split <;> rfl
        · rfl
      next => cases stepped

theorem permanent_of_step (permanent : label.isPermanentFailure = true)
    (stepped : run.step label = some (next, entries)) :
    run.connection.control ≠ .stopped ∧ entries = [] := by
  unfold CommandLabel.isPermanentFailure at permanent
  split at permanent
  next error =>
    have notTransient : error.isTransient = false := by simpa using permanent
    simp only [step] at stepped
    split at stepped
    next connection shown moved =>
      have taken := Machine.reached_of_some stepped
      simp only [withCommands, notTransient, Bool.false_eq_true, if_false] at taken
      exact ⟨Connection.not_stopped_of_step moved (by simp), taken.2.symm⟩
    next => cases stepped
  next => cases permanent

end CommandRun

/-! ## A whole run -/

namespace FailureRun

open CommandRun

variable {state next : FailureRun} {history entries : List FailureEntry}
  {refused left unread : List Submission}

@[simp] theorem commandsOf_append (history entries : List FailureEntry) :
    commandsOf (history ++ entries) = commandsOf history ++ commandsOf entries :=
  List.filterMap_append

@[simp] theorem commandsOf_command (inner : List CommandEntry) :
    commandsOf (inner.map .command) = inner := by
  simp [commandsOf, List.filterMap_map, FailureEntry.command?, Function.comp_def]

theorem commandsOf_reported (submission : Submission) (shown : Option Event) :
    commandsOf ((shown.map (FailureEntry.reported submission)).toList) = [] := by
  cases shown <;> rfl

structure Separate (controls : AttachmentControls) (submissions : List Submission) : Prop where
  used : ∀ submission ∈ submissions, ∀ control, submission.command.control? = some control →
    control < controls.next
  apart : ∀ one ∈ submissions, ∀ other ∈ submissions, ∀ control,
    one.command.control? = some control → other.command.control? = some control → one = other

structure Serving (state : FailureRun) (history : List FailureEntry) : Prop where
  silent : ∀ entry ∈ history, ∃ inner, entry = .command inner
  unclaimed : ∀ control, (state.controls.state control).lifecycle ≠ .terminal

/-- The connection is given up: the deferred commands were `refused` or are `left`. -/
structure Failing (state : FailureRun) (history : List FailureEntry)
    (refused left unread : List Submission) : Prop where
  gaveUp : ∀ others, .gaveUp others ∈ history → others = unread
  conserved : executed (commandsOf history) ++ (refused ++ left) ++ unread =
    kept (commandsOf history)
  onlyRefused : ∀ submission event, .reported submission event ∈ history → submission ∈ refused
  answered : ∀ submission ∈ refused, submission.command.isReportable = true →
    state.isCancelled submission = true ∨ Reported submission history
  unclaimed : ∀ submission ∈ left, ∀ control, submission.command.control? = some control →
    (state.controls.state control).lifecycle ≠ .terminal

structure Tracked (state : FailureRun) (history : List FailureEntry) : Prop where
  holds : state.run.Holds (commandsOf history)
  separate : Separate state.controls (accepted (commandsOf history))
  serving : state.failing = none → state.Serving history
  failing : ∀ left, state.failing = some left →
    ∃ refused unread, state.Failing history refused left unread

theorem Separate.accept {controls : AttachmentControls} {submissions : List Submission}
    (separate : Separate controls submissions) {submission : Submission}
    (fresh : ∀ control, submission.command.control? = some control → control = controls.next) :
    Separate (if submission.command.control?.isSome then controls.new.2 else controls)
      (submissions ++ [submission]) := by
  have next_le : controls.next ≤
      (if submission.command.control?.isSome then controls.new.2 else controls).next := by
    split <;> simp
  have newApart : ∀ one ∈ submissions, ∀ control, one.command.control? = some control →
      submission.command.control? ≠ some control := by
    intro one member control isControl isNew
    exact Nat.ne_of_lt (separate.used one member control isControl) (fresh control isNew)
  constructor
  · intro one member control isControl
    rcases List.mem_append.mp member with known | isNew
    · exact Nat.lt_of_lt_of_le (separate.used one known control isControl) next_le
    · rw [List.mem_singleton.mp isNew] at isControl
      simp [isControl, fresh control isControl]
  · intro one oneMember other otherMember control oneControl otherControl
    rcases List.mem_append.mp oneMember with oneKnown | oneNew <;>
      rcases List.mem_append.mp otherMember with otherKnown | otherNew
    · exact separate.apart one oneKnown other otherKnown control oneControl otherControl
    · rw [List.mem_singleton.mp otherNew] at otherControl
      exact absurd otherControl (newApart one oneKnown control oneControl)
    · rw [List.mem_singleton.mp oneNew] at oneControl
      exact absurd oneControl (newApart other otherKnown control otherControl)
    · rw [List.mem_singleton.mp oneNew, List.mem_singleton.mp otherNew]

theorem Reported.append {submission : Submission} (reported : Reported submission history)
    (more : List FailureEntry) : Reported submission (history ++ more) := by
  rcases reported with ⟨event, member, facts⟩
  exact ⟨event, List.mem_append_left _ member, facts⟩

theorem Serving.gaveUp (serving : state.Serving history)
    (books : Books state.run.deferredCommands state.run.commands (commandsOf history))
    (unclaimed : ∀ control, (next.controls.state control).lifecycle ≠ .terminal) :
    next.Failing (history ++ [.gaveUp state.run.commands]) [] state.run.deferredCommands
      state.run.commands := by
  have cases_of_mem : ∀ entry ∈ history ++ [.gaveUp state.run.commands],
      (∃ found, entry = .command found) ∨ entry = .gaveUp state.run.commands := by
    intro entry member
    rcases List.mem_append.mp member with earlier | isLast
    · exact Or.inl (serving.silent entry earlier)
    · exact Or.inr (List.mem_singleton.mp isLast)
  refine ⟨?_, ?_, ?_, by simp, fun _ _ control _ => unclaimed control⟩
  · intro others member
    rcases cases_of_mem _ member with ⟨_, isCommand⟩ | isLast
    · cases isCommand
    · exact FailureEntry.gaveUp.inj isLast
  · rw [commandsOf_append, show commandsOf [.gaveUp state.run.commands] = [] from rfl,
      List.append_nil]
    exact books.conserved
  · intro submission event member
    rcases cases_of_mem _ member with ⟨_, isCommand⟩ | isLast
    · cases isCommand
    · cases isLast

namespace Tracked

theorem commandStep {label : CommandLabel} (tracked : Tracked state history)
    (stepped : state.commandStep label = some (next, entries)) :
    Tracked next (history ++ entries) := by
  simp only [FailureRun.commandStep] at stepped
  split at stepped
  next => cases stepped
  next enabled =>
  simp only [Bool.or_eq_true, not_or, Bool.not_eq_true, Option.isSome_eq_false_iff,
    Option.isNone_iff_eq_none] at enabled
  rcases Option.map_eq_some_iff.mp stepped with ⟨⟨reached, inner⟩, moved, same⟩
  cases same
  have serving := tracked.serving enabled.1
  have seen : commandsOf (history ++ (inner.map .command ++
      if label.isPermanentFailure then [.gaveUp state.run.commands] else [])) =
        commandsOf history ++ inner := by
    rw [commandsOf_append, commandsOf_append, commandsOf_command]
    split <;> simp [commandsOf, FailureEntry.command?]
  have unclaimed : ∀ control, ((if label.control?.isSome then state.controls.new.2
      else state.controls).state control).lifecycle ≠ .terminal := by
    intro control
    split
    · exact AttachmentControls.not_terminal_new (serving.unclaimed control)
    · exact serving.unclaimed control
  refine ⟨?_, ?_, ?_, ?_⟩
  · rw [seen]
    exact tracked.holds.step moved
  · rw [seen, accepted_append]
    rcases accepted_of_step moved with ⟨command, rfl, isNew⟩ | ⟨noControl, noneNew⟩
    · rw [isNew]
      have fresh : ∀ control, ({ number := state.run.submitted, command } :
          Submission).command.control? = some control → control = state.controls.next := by
        intro control isControl
        have own := enabled.2
        rw [show (CommandLabel.submit command).control? = some control from isControl] at own
        simpa using own
      exact tracked.separate.accept fresh
    · simpa [noControl, noneNew] using tracked.separate
  · intro notFailing
    have ordinary : label.isPermanentFailure = false := by
      by_contra permanent
      simp [permanent] at notFailing
    refine ⟨fun entry member => ?_, unclaimed⟩
    simp only [ordinary, Bool.false_eq_true, if_false, List.append_nil] at member
    rcases List.mem_append.mp member with earlier | new
    · exact serving.silent entry earlier
    · rcases List.mem_map.mp new with ⟨found, -, isEntry⟩
      exact ⟨found, isEntry.symm⟩
  · intro left isLeft
    have permanent : label.isPermanentFailure = true := by
      by_contra ordinary
      simp [ordinary] at isLeft
    rcases permanent_of_step permanent moved with ⟨running, rfl⟩
    have isDeferred : state.run.deferredCommands = left := by simpa [permanent] using isLeft
    rw [← isDeferred]
    simp only [permanent, if_true, List.map_nil, List.nil_append]
    exact ⟨[], state.run.commands, serving.gaveUp (tracked.holds.books running) unclaimed⟩

theorem cancel (tracked : Tracked state history) (control : AttachmentControl) :
    Tracked { state with controls := (state.controls.cancel control).2 } history := by
  refine ⟨tracked.holds, ⟨?_, tracked.separate.apart⟩, fun serving => ?_, fun left isLeft => ?_⟩
  · simpa using tracked.separate.used
  · have before := tracked.serving serving
    exact ⟨before.silent, fun other => AttachmentControls.not_terminal_cancel (before.unclaimed other)⟩
  · rcases tracked.failing left isLeft with ⟨refused, unread, failing⟩
    refine ⟨refused, unread, { failing with answered := ?_, unclaimed := ?_ }⟩
    · intro submission member reportable
      refine (failing.answered submission member reportable).imp_left fun cancelled => ?_
      rcases (Option.any_eq_true _ _).mp cancelled with ⟨other, isControl, isCancelled⟩
      exact (Option.any_eq_true _ _).mpr
        ⟨other, isControl, AttachmentControls.isCancelled_cancel isCancelled⟩
    · exact fun submission member other isControl =>
        AttachmentControls.not_terminal_cancel (failing.unclaimed submission member other isControl)

theorem waiting (tracked : Tracked state history)
    (failing : state.Failing history refused left unread) :
    (refused ++ left ++ unread).Nodup ∧
      ∀ submission ∈ left, submission ∈ accepted (commandsOf history) := by
  have kept_nodup : (kept (commandsOf history)).Nodup := tracked.holds.distinct.filter _
  rw [← failing.conserved, List.append_assoc] at kept_nodup
  refine ⟨kept_nodup.of_append_right, fun submission member => ?_⟩
  have inKept : submission ∈ kept (commandsOf history) := by
    rw [← failing.conserved]
    simp [member]
  exact List.mem_of_mem_filter inKept

theorem refuse {submission : Submission} {rest : List Submission}
    {failed : Option Event × AttachmentControls} (tracked : Tracked state history)
    (failing : state.Failing history refused (submission :: rest) unread)
    (isFailed : deferredCommandFailure state.controls submission.command recoveryStopped = failed) :
    Failing { state with controls := failed.2, failing := some rest }
      (history ++ (failed.1.map (.reported submission)).toList) (refused ++ [submission]) rest
      unread := by
  rcases tracked.waiting failing with ⟨distinct, isAccepted⟩
  refine ⟨?_, ?_, ?_, ?_, ?_⟩
  · intro others member
    refine failing.gaveUp others ?_
    rcases List.mem_append.mp member with earlier | new
    · exact earlier
    · simp at new
  · rw [commandsOf_append, commandsOf_reported, List.append_nil, ← failing.conserved]
    simp
  · intro other event member
    rcases List.mem_append.mp member with earlier | new
    · exact List.mem_append_left _ (failing.onlyRefused other event earlier)
    · simp only [Option.mem_toList, Option.map_eq_some_iff] at new
      rcases new with ⟨shown, -, same⟩
      cases same
      exact List.mem_append_right _ (List.mem_singleton_self _)
  · intro other member reportable
    rcases List.mem_append.mp member with earlier | isNew
    · refine (failing.answered other earlier reportable).imp (fun cancelled => ?_)
        (fun reported => reported.append _)
      rcases (Option.any_eq_true _ _).mp cancelled with ⟨control, isControl, isCancelled⟩
      refine (Option.any_eq_true _ _).mpr ⟨control, isControl, ?_⟩
      rw [← isFailed]
      exact isCancelled_deferredCommandFailure isCancelled
    · cases List.mem_singleton.mp isNew
      have answer := deferredCommandFailure_spec reportable
        (failing.unclaimed submission List.mem_cons_self) recoveryStopped
      rw [isFailed] at answer
      refine answer.imp_right fun ⟨event, isEvent, facts⟩ => ⟨event, ?_, facts⟩
      simp [isEvent]
  · -- The refusal claims a control that no other command has.
    intro other member control isControl
    have notSame : submission.command.control? ≠ some control := by
      intro same
      have isSubmission := tracked.separate.apart submission (isAccepted _ List.mem_cons_self)
        other (isAccepted _ (List.mem_cons_of_mem _ member)) control same isControl
      have once := distinct.of_append_left.of_append_right
      exact (List.nodup_cons.mp once).1 (isSubmission ▸ member)
    rw [← isFailed, state_deferredCommandFailure notSame]
    exact failing.unclaimed other (List.mem_cons_of_mem _ member) control isControl

theorem failNext (tracked : Tracked state history)
    (stepped : state.failNext = some (next, entries)) : Tracked next (history ++ entries) := by
  unfold FailureRun.failNext at stepped
  split at stepped
  next submission rest isLeft =>
    rcases Machine.reached_of_some stepped with ⟨rfl, rfl⟩
    rcases tracked.failing _ isLeft with ⟨refused, unread, failing⟩
    have seen : ∀ shown : Option Event, commandsOf (history ++
        (shown.map (FailureEntry.reported submission)).toList) = commandsOf history := by
      intro shown
      rw [commandsOf_append, commandsOf_reported, List.append_nil]
    refine ⟨?_, ⟨?_, ?_⟩, by simp, ?_⟩
    · rw [seen]
      exact tracked.holds
    · rw [seen]
      simpa only [next_deferredCommandFailure] using tracked.separate.used
    · rw [seen]
      exact tracked.separate.apart
    · intro left sameLeft
      cases sameLeft
      exact ⟨refused ++ [submission], unread, tracked.refuse failing rfl⟩
  next => cases stepped
  next => cases stepped

theorem step {label : FailureLabel} (tracked : Tracked state history)
    (stepped : state.step label = some (next, entries)) : Tracked next (history ++ entries) := by
  cases label with
  | commands label => exact tracked.commandStep stepped
  | cancel control =>
      cases stepped
      rw [List.append_nil]
      exact tracked.cancel control
  | failNext => exact tracked.failNext stepped

end Tracked

theorem tracked_initial : Tracked {} [] :=
  ⟨Holds.initial, ⟨by simp [commandsOf, accepted], by simp [commandsOf, accepted]⟩,
    fun _ => ⟨by simp, by simp⟩, by simp⟩

/-- When the worker returns after a failure for good, a command that was accepted and is not
taken up has been reported exactly if it was not in the channel any more. -/
theorem reported_iff_of_run {labels : List FailureLabel} {submission : Submission}
    (runs : machine.run labels = some (state, history)) (through : state.IsThrough)
    (gaveUp : .gaveUp unread ∈ history) (isAccepted : submission ∈ accepted (commandsOf history))
    (notExecuted : submission ∉ executed (commandsOf history))
    (reportable : submission.command.isReportable = true)
    (notCancelled : state.isCancelled submission = false) :
    Reported submission history ↔ submission ∉ unread := by
  have tracked : Tracked state history :=
    machine.run_invariant tracked_initial (fun _ _ _ _ _ tracked stepped => tracked.step stepped)
      runs
  rcases tracked.failing [] through with ⟨refused, others, failing⟩
  cases failing.gaveUp unread gaveUp
  rcases tracked.waiting failing with ⟨distinct, -⟩
  rw [List.append_nil] at distinct
  have isKept : submission ∈ kept (commandsOf history) := by
    refine List.mem_filter.mpr ⟨isAccepted, ?_⟩
    have notTyping : submission.command.isSetTyping = false := by
      cases isCommand : submission.command <;>
        simp_all [WorkerCommand.isReportable, WorkerCommand.isSetTyping]
    simp [isLeftOut, notTyping]
  have place : submission ∈ refused ∨ submission ∈ unread := by
    rw [← failing.conserved] at isKept
    simpa [notExecuted] using isKept
  constructor
  · rintro ⟨event, member, -⟩ isUnread
    exact List.disjoint_of_nodup_append distinct (failing.onlyRefused _ _ member) isUnread
  · intro notUnread
    rcases failing.answered submission (place.resolve_right notUnread) reportable with
      cancelled | reported
    · rw [notCancelled] at cancelled
      cases cancelled
    · exact reported

def logOut : FailureLabel :=
  .commands (.connection (.receiveStarted (.error { message := "Unauthorized", isTransient := false })))

/-- A new identity is accepted before the connection is made, and the device was unlinked. -/
def acceptedWhileConnecting : List FailureLabel :=
  [.commands (.connection .restart), .commands (.submit (.acceptIdentity 7 "alice")), logOut]

/-- The same while the connection recovers, and the worker has looked into the channel. -/
def acceptedWhileRecovering : List FailureLabel :=
  [.commands (.connection .restart),
    .commands (.connection (.receiveStarted (.error { message := "down", isTransient := true }))),
    .commands (.submit (.acceptIdentity 7 "alice")), .commands (.connection .restart),
    .commands (.connection .delayElapsed), logOut, .failNext]

theorem reported_of_acceptedWhileRecovering :
    ∃ state history, machine.run acceptedWhileRecovering = some (state, history) ∧
      Reported ⟨0, .acceptIdentity 7 "alice"⟩ history := by
  have reached : (machine.run acceptedWhileRecovering).any (fun reached =>
      decide (reached.1.failing = some []) && decide (.gaveUp [] ∈ reached.2) &&
        decide (accepted (commandsOf reached.2) = [⟨0, .acceptIdentity 7 "alice"⟩]) &&
        decide (executed (commandsOf reached.2) = [])) = true := by
    decide +kernel
  rcases (Option.any_eq_true _ _).mp reached with ⟨⟨state, history⟩, runs, facts⟩
  simp only [Bool.and_eq_true, decide_eq_true_eq] at facts
  rcases facts with ⟨⟨⟨through, gaveUp⟩, isAccepted⟩, notExecuted⟩
  refine ⟨state, history, runs, (reported_iff_of_run runs through gaveUp ?_ ?_ rfl rfl).mpr ?_⟩
  · simp [isAccepted]
  · simp [notExecuted]
  · simp

/-- The command is in the channel when the connection is given up. It was accepted, and
nobody hears of it again. -/
theorem unread_command_unreported :
    ∃ state history, machine.run acceptedWhileConnecting = some (state, history) ∧
      state.IsThrough ∧ ⟨0, .acceptIdentity 7 "alice"⟩ ∈ accepted (commandsOf history) ∧
      executed (commandsOf history) = [] ∧
      ¬Reported ⟨0, .acceptIdentity 7 "alice"⟩ history := by
  have reached : (machine.run acceptedWhileConnecting).any (fun reached =>
      decide (reached.1.failing = some []) &&
        decide (reached.2 = [.command (.accepted ⟨0, .acceptIdentity 7 "alice"⟩),
          .gaveUp [⟨0, .acceptIdentity 7 "alice"⟩]])) = true := by
    decide +kernel
  rcases (Option.any_eq_true _ _).mp reached with ⟨⟨state, history⟩, runs, facts⟩
  simp only [Bool.and_eq_true, decide_eq_true_eq] at facts
  rcases facts with ⟨through, rfl⟩
  refine ⟨state, _, runs, through, List.mem_singleton_self _, rfl, ?_⟩
  rintro ⟨event, member, -⟩
  simp at member

end FailureRun

end SignalPurple
