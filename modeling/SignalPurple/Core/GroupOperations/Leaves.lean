import SignalPurple.Core.GroupOperations.Exclusion
import SignalPurple.Core.GroupSession

/-! # Every leave is answered once

A leave command that fails leaves no trace in the groups of the session, and every leave
command that runs to its end is answered by one event, whatever else the retry of the
outbox reports on the way.
-/

namespace SignalPurple

def GroupEntry.event : GroupEntry → Option Event
  | .emitted event | .outbox (.emitted event) => some event
  | .outbox (.sendCalled ..) | .leaveCalled .. | .projected .. => none

def GroupOperationsEntry.event : GroupOperationsEntry → Option Event
  | .group entry => entry.event
  | .sendStarted .. | .sendEnded .. | .leaveStarted _ | .leaveEnded .. | .leaveTaken ..
  | .leaveFinished .. => none

def GroupOperationsEntry.Inner : GroupOperationsEntry → Prop
  | .leaveTaken .. | .leaveFinished .. => False
  | .sendStarted .. | .sendEnded .. | .leaveStarted _ | .leaveEnded .. | .group _ => True

/-- Entries that tell nothing about a leave: their events answer no request. -/
structure GroupOperationsEntry.Background (entry : GroupOperationsEntry) : Prop where
  inner : entry.Inner
  notLeft : ∀ key, entry ≠ .leaveEnded key true
  anonymous : ∀ event, entry.event = some event → event.requestId = 0

namespace GroupOperations

/-! ## The leave under way -/

/-- A leave command, the groups when it was dequeued, and what happened since. -/
structure OpenLeave where
  command : LeaveCommand
  departed : DepartedGroups
  entries : List GroupOperationsEntry

namespace OpenLeave

def note (leave : OpenLeave) (entries : List GroupOperationsEntry) : OpenLeave :=
  { leave with entries := leave.entries ++ entries }

def reports (leave : OpenLeave) : List Event :=
  (leave.entries.filterMap GroupOperationsEntry.event).filter
    (·.requestId == leave.command.requestId)

def Accepted (leave : OpenLeave) : Prop := ∃ key, .leaveEnded key true ∈ leave.entries

/-- The command has ended, with these groups. -/
structure Settled (leave : OpenLeave) (departed : DepartedGroups) : Prop where
  reported : ∃ event, leave.reports = [event] ∧ (event.kind = .groupLeft ↔ leave.Accepted)
  restored : ¬ leave.Accepted → departed = leave.departed

theorem note_append (leave : OpenLeave) (first last : List GroupOperationsEntry) :
    leave.note (first ++ last) = (leave.note first).note last := by
  simp [note]

theorem reports_note (leave : OpenLeave) (entries : List GroupOperationsEntry) :
    (leave.note entries).reports =
      leave.reports ++ (entries.filterMap GroupOperationsEntry.event).filter
        (·.requestId == leave.command.requestId) := by
  simp [reports, note]

theorem accepted_note (leave : OpenLeave) (entries : List GroupOperationsEntry) :
    (leave.note entries).Accepted ↔
      leave.Accepted ∨ ∃ key, .leaveEnded key true ∈ entries := by
  simp [Accepted, note, exists_or]

theorem reports_note_of_background (leave : OpenLeave) {entries : List GroupOperationsEntry}
    (background : ∀ entry ∈ entries, entry.Background) :
    (leave.note entries).reports = leave.reports := by
  have silent : (entries.filterMap GroupOperationsEntry.event).filter
      (·.requestId == leave.command.requestId) = [] := by
    rw [List.filter_eq_nil_iff]
    intro event member
    rcases List.mem_filterMap.mp member with ⟨entry, isEntry, isEvent⟩
    rw [(background entry isEntry).anonymous event isEvent]
    simpa using leave.command.named.symm
  rw [reports_note, silent, List.append_nil]

theorem accepted_note_of_background (leave : OpenLeave) {entries : List GroupOperationsEntry}
    (background : ∀ entry ∈ entries, entry.Background) :
    (leave.note entries).Accepted ↔ leave.Accepted := by
  rw [accepted_note, or_iff_left]
  rintro ⟨key, member⟩
  exact (background _ member).notLeft key rfl

end OpenLeave

def openLeaveStep (opened : Option OpenLeave) : GroupOperationsEntry → Option OpenLeave
  | .leaveTaken command departed => some { command, departed, entries := [] }
  | .leaveFinished .. => none
  | entry => opened.map (·.note [entry])

def openLeave (history : List GroupOperationsEntry) : Option OpenLeave :=
  history.foldl openLeaveStep none

theorem openLeave_concat (history : List GroupOperationsEntry) (entry : GroupOperationsEntry) :
    openLeave (history ++ [entry]) = openLeaveStep (openLeave history) entry := by
  simp [openLeave]

theorem openLeave_append {history entries : List GroupOperationsEntry}
    (inner : ∀ entry ∈ entries, entry.Inner) :
    openLeave (history ++ entries) = (openLeave history).map (·.note entries) := by
  induction entries generalizing history with
  | nil => cases opened : openLeave history <;> simp [OpenLeave.note, opened]
  | cons entry later induction =>
      have first : openLeave (history ++ [entry]) = (openLeave history).map (·.note [entry]) := by
        rw [openLeave_concat]
        have isInner := inner entry (List.mem_cons_self ..)
        cases entry <;> first | rfl | exact isInner.elim
      rw [List.append_cons, induction fun other member => inner other (List.mem_cons_of_mem _ member),
        first, Option.map_map]
      cases openLeave history <;> simp [OpenLeave.note]

/-! ## What the outbox tells on its own account -/

section Outbox

variable {account : Account}

def AnonymousOutbox : OutboxEntry → Prop
  | .emitted event => event.requestId = 0
  | .sendCalled .. => True

theorem background_of_anonymous {shown : List OutboxEntry}
    (anonymous : ∀ entry ∈ shown, AnonymousOutbox entry) :
    ∀ entry ∈ shown.map (GroupOperationsEntry.group <| .outbox ·), entry.Background := by
  intro entry member
  rcases List.mem_map.mp member with ⟨inner, isInner, rfl⟩
  refine ⟨trivial, by simp, ?_⟩
  intro event isEvent
  cases inner with
  | emitted shownEvent =>
      cases isEvent
      exact anonymous _ isInner
  | sendCalled thread message timestamp result => cases isEvent

theorem background_error (text : String) :
    (GroupOperationsEntry.group (.emitted (Event.error text false))).Background := by
  refine ⟨trivial, by simp, ?_⟩
  intro event isEvent
  cases isEvent
  rfl

theorem anonymous_attemptOutboxMessage {departed : DepartedGroups} {cache : MetadataCache}
    {message : ClientOutboxMessage} {outcomes : AttemptOutcomes} :
    ∀ entry ∈ (attemptOutboxMessage account departed cache message outcomes).entries,
      AnonymousOutbox entry := by
  have called : ∀ {cache thread data timestamp send},
      ∀ entry ∈ (callSend cache thread data timestamp send).entries, AnonymousOutbox entry := by
    intro cache thread data timestamp send entry member
    cases List.mem_singleton.mp member
    trivial
  unfold attemptOutboxMessage
  split
  · split
    · simp
    · exact called
  · split
    · simp
    · simp
    · exact called

theorem anonymous_performAttempt {departed : DepartedGroups} {outbox : OutboxState}
    {message : ClientOutboxMessage} {outcomes : AttemptOutcomes} :
    ∀ entry ∈ (performAttempt account departed outbox message outcomes).entries,
      AnonymousOutbox entry := by
  intro entry performed
  rcases List.mem_append.mp performed with called | marked
  · exact anonymous_attemptOutboxMessage entry called
  · split at marked
    · unfold markSentMessageProjectedOrReport at marked
      split at marked
      · cases marked
      · cases List.mem_singleton.mp marked
        rfl
    · cases marked

theorem anonymous_retryNotice {message : ClientOutboxMessage} {performed : Performed} :
    ∀ entry ∈ retryNotice message performed, AnonymousOutbox entry := by
  intro entry notice
  unfold retryNotice at notice
  split at notice
  · cases List.mem_singleton.mp notice
    rfl
  · cases notice
  · split at notice
    · cases List.mem_singleton.mp notice
      rfl
    · split at notice
      · cases List.mem_singleton.mp notice
        rfl
      · cases notice

/-- What an attempt under way will have done. -/
def pendingEntries : GroupActor → List OutboxEntry
  | .sending _ _ _ performed _ _ => performed.entries
  | .idle | .attempting .. | .leaveTaken .. | .leaveCalling .. | .leaveAccepted _ | .stopped => []

end Outbox

/-! ## The invariant -/

inductive LeaveStage where
  | quiet
  | announced (command : LeaveCommand) (groupsAuthoritative : Bool)
  | accepted (command : LeaveCommand)
  | stopped

def originStage : AttemptOrigin → LeaveStage
  | .leave command => .accepted command
  | .send _ | .retry => .quiet

def stage : GroupActor → LeaveStage
  | .idle => .quiet
  | .attempting origin .. | .sending origin .. => originStage origin
  | .leaveTaken command groupsAuthoritative => .announced command groupsAuthoritative
  | .leaveCalling command _ => .announced command true
  | .leaveAccepted command => .accepted command
  | .stopped => .stopped

/-- What the groups and the open leave look like at a stage. -/
def Booked (departed : DepartedGroups) (opened : Option OpenLeave) : LeaveStage → Prop
  | .quiet => opened = none ∧ departed.leaving = ∅
  | .announced command groupsAuthoritative =>
      ∃ leave, opened = some leave ∧ leave.command = command ∧
        leave.departed.leaving = ∅ ∧ leave.reports = [] ∧ ¬ leave.Accepted ∧
        departed =
          if groupsAuthoritative then leave.departed.beginLeave command.groupKey
          else leave.departed
  | .accepted command =>
      ∃ leave, opened = some leave ∧ leave.command = command ∧ departed.leaving = ∅ ∧
        leave.Accepted ∧ ∃ event, leave.reports = [event] ∧ event.kind = .groupLeft
  | .stopped => True

/-- A leave that is reported as finished is settled. -/
def FinishesSettled (before : List GroupOperationsEntry) : GroupOperationsEntry → Prop
  | .leaveFinished command departed =>
      ∃ leave, openLeave before = some leave ∧ leave.command = command ∧ leave.Settled departed
  | _ => True

structure Answered (state : GroupOperations) (history : List GroupOperationsEntry) : Prop where
  booked : Booked state.departed (openLeave history) (stage state.actor)
  settled : History.Justified FinishesSettled history
  performing : ∀ entry ∈ pendingEntries state.actor, AnonymousOutbox entry

section Invariant

variable {account : Account} {state next : GroupOperations}
  {history entries : List GroupOperationsEntry}

theorem answered_initial : Answered {} [] where
  booked := ⟨rfl, rfl⟩
  settled := History.justified_nil _
  performing := by simp [pendingEntries]

theorem settled_of_inner (settled : History.Justified FinishesSettled history)
    (inner : ∀ entry ∈ entries, entry.Inner) :
    History.Justified FinishesSettled (history ++ entries) := by
  rw [History.justified_append]
  refine ⟨settled, ?_⟩
  rintro before entry after rfl
  have isInner := inner entry (by simp)
  cases entry <;> trivial

theorem booked_of_background {departed : DepartedGroups} {opened : Option OpenLeave}
    {leaveStage : LeaveStage} (booked : Booked departed opened leaveStage)
    (background : ∀ entry ∈ entries, entry.Background) :
    Booked departed (opened.map (·.note entries)) leaveStage := by
  cases leaveStage with
  | quiet => exact ⟨by rw [booked.1]; rfl, booked.2⟩
  | announced command groupsAuthoritative =>
      rcases booked with ⟨leave, rfl, same, empty, silent, pending, departed⟩
      refine ⟨leave.note entries, rfl, same, empty, ?_, ?_, departed⟩
      · rw [leave.reports_note_of_background background, silent]
      · rwa [leave.accepted_note_of_background background]
  | accepted command =>
      rcases booked with ⟨leave, rfl, same, empty, accepted, event, reported, kind⟩
      refine ⟨leave.note entries, rfl, same, empty, ?_, event, ?_, kind⟩
      · rwa [leave.accepted_note_of_background background]
      · rw [leave.reports_note_of_background background, reported]
  | stopped => trivial

theorem Answered.background (holds : Answered state history)
    (departed : next.departed = state.departed) (stages : stage next.actor = stage state.actor)
    (performing : ∀ entry ∈ pendingEntries next.actor, AnonymousOutbox entry)
    (background : ∀ entry ∈ entries, entry.Background) : Answered next (history ++ entries) where
  booked := by
    have inner : ∀ entry ∈ entries, entry.Inner := fun entry member =>
      (background entry member).inner
    rw [departed, stages, openLeave_append inner]
    exact booked_of_background holds.booked background
  settled := settled_of_inner holds.settled fun entry member => (background entry member).inner
  performing := performing

theorem Answered.quiet (holds : Answered state history)
    (departed : next.departed = state.departed) (before : stage state.actor = .quiet)
    (after : stage next.actor = .quiet)
    (performing : ∀ entry ∈ pendingEntries next.actor, AnonymousOutbox entry)
    (inner : ∀ entry ∈ entries, entry.Inner) : Answered next (history ++ entries) where
  booked := by
    have booked := holds.booked
    rw [before] at booked
    rw [departed, after, openLeave_append inner, booked.1]
    exact ⟨rfl, booked.2⟩
  settled := settled_of_inner holds.settled inner
  performing := performing

/-! ## One step -/

theorem inner_of_group {shown : List OutboxEntry} {entry : GroupOperationsEntry}
    (member : entry ∈ shown.map (.group <| .outbox ·)) : entry.Inner := by
  rcases List.mem_map.mp member with ⟨inner, -, rfl⟩
  trivial

theorem Answered.attemptEnded (holds : Answered state history) {origin : AttemptOrigin}
    {groupsAuthoritative : Bool} (message : ClientOutboxMessage) {performed : Performed}
    {later : List ClientOutboxMessage} (departed : next.departed = state.departed)
    (before : stage state.actor = originStage origin)
    (after : next.actor = .attempting origin groupsAuthoritative later)
    (anonymous : ∀ entry ∈ performed.entries, AnonymousOutbox entry) :
    Answered next (history ++
      (performed.entries ++ origin.notices message performed).map (.group <| .outbox ·)) := by
  have idle : ∀ entry ∈ pendingEntries next.actor, AnonymousOutbox entry := by
    simp [after, pendingEntries]
  have stages : stage next.actor = originStage origin := by rw [after]; rfl
  cases origin with
  | send command => exact holds.quiet departed before stages idle fun entry => inner_of_group
  | retry => exact holds.quiet departed before stages idle fun entry => inner_of_group
  | leave command =>
      apply holds.background departed (stages.trans before.symm) idle
      apply background_of_anonymous
      intro entry member
      rcases List.mem_append.mp member with performing | notice
      · exact anonymous entry performing
      · exact anonymous_retryNotice entry notice

theorem background_send (user : GroupUser) (key : GroupKey) (groups : GroupSnapshotState) :
    (GroupOperationsEntry.sendStarted user key groups).Background ∧
      (GroupOperationsEntry.sendEnded user key).Background :=
  ⟨⟨trivial, by simp, by simp [GroupOperationsEntry.event]⟩,
    ⟨trivial, by simp, by simp [GroupOperationsEntry.event]⟩⟩

theorem Answered.takeLeave (holds : Answered state history) (idle : state.actor = .idle)
    (command : LeaveCommand) :
    Answered (state.takeLeave command).1 (history ++ (state.takeLeave command).2) where
  booked := by
    have booked : openLeave history = none ∧ state.departed.leaving = ∅ := by
      simpa [idle, stage, Booked] using holds.booked
    refine ⟨{ command, departed := state.departed, entries := [] }, openLeave_concat _ _, rfl,
      booked.2, rfl, ?_, rfl⟩
    rintro ⟨key, member⟩
    cases member
  settled := by
    rw [History.justified_append]
    exact ⟨holds.settled, by simp [GroupOperations.takeLeave, FinishesSettled]⟩
  performing := by simp [GroupOperations.takeLeave, pendingEntries]

theorem Answered.finish (holds : Answered state history) {leave : OpenLeave}
    (opened : openLeave history = some leave) (inner : ∀ entry ∈ entries, entry.Inner)
    {departed : DepartedGroups} (settled : (leave.note entries).Settled departed)
    (idle : next.actor = .idle) (empty : next.departed.leaving = ∅) :
    Answered next (history ++ (entries ++ [.leaveFinished leave.command departed])) := by
  have noted : openLeave (history ++ entries) = some (leave.note entries) := by
    rw [openLeave_append inner, opened]
    rfl
  constructor
  · rw [idle, ← List.append_assoc, openLeave_concat]
    exact ⟨rfl, empty⟩
  · rw [← List.append_assoc, History.justified_append, History.justified_singleton,
      List.append_nil]
    exact ⟨settled_of_inner holds.settled inner, leave.note entries, noted, rfl, settled⟩
  · simp [idle, pendingEntries]

theorem cancelLeave_announced {departed : DepartedGroups} (empty : departed.leaving = ∅)
    (groupKey : String) (groupsAuthoritative : Bool) :
    (if groupsAuthoritative then departed.beginLeave groupKey else departed).cancelLeave
      groupKey = departed := by
  rcases departed with ⟨leaving, departed⟩
  obtain rfl : leaving = ∅ := empty
  cases groupsAuthoritative <;> simp [DepartedGroups.cancelLeave, DepartedGroups.beginLeave]

theorem settled_of_failure {leave : OpenLeave} {command : LeaveCommand}
    (same : leave.command = command) (silent : leave.reports = []) (pending : ¬ leave.Accepted)
    (error : String) (before : List GroupOperationsEntry)
    (background : ∀ entry ∈ before, entry.Background) :
    (leave.note (before ++ [.group <| .emitted <|
      Event.groupRequestError command.requestId command.groupKey error])).Settled
        leave.departed := by
  have notAccepted : ¬ ((leave.note before).note [.group <| .emitted <|
      Event.groupRequestError command.requestId command.groupKey error]).Accepted := by
    rw [OpenLeave.accepted_note, OpenLeave.accepted_note_of_background _ background]
    simp [pending]
  rw [OpenLeave.note_append]
  refine ⟨⟨Event.groupRequestError command.requestId command.groupKey error, ?_, ?_⟩,
    fun _ => rfl⟩
  · rw [OpenLeave.reports_note, OpenLeave.reports_note_of_background _ background, silent]
    simp [GroupOperationsEntry.event, GroupEntry.event, OpenLeave.note, same,
      Event.groupRequestError]
  · exact iff_of_false (by simp [Event.groupRequestError, Event.error]) notAccepted

theorem Answered.abandon (holds : Answered state history) {command : LeaveCommand}
    {groupsAuthoritative : Bool} (actor : state.actor = .leaveTaken command groupsAuthoritative)
    (cache : MetadataCache) (error : String) :
    Answered (state.abandon cache command error).1
      (history ++ (state.abandon cache command error).2) := by
  have booked := holds.booked
  rw [actor] at booked
  rcases booked with ⟨leave, opened, same, empty, silent, pending, departed⟩
  have restored := cancelLeave_announced empty command.groupKey groupsAuthoritative
  rw [← departed] at restored
  have settled := settled_of_failure same silent pending error [] (by simp)
  have finished : Answered (state.abandon cache command error).1 (history ++ (_ ++ [_])) :=
    holds.finish opened (by simp [GroupOperationsEntry.Inner]) settled rfl
      (by rw [GroupOperations.abandon, restored]; exact empty)
  rw [same] at finished
  simpa [GroupOperations.abandon, restored] using finished

theorem Answered.leaveReturned (holds : Answered state history) {command : LeaveCommand}
    {key : GroupKey} (actor : state.actor = .leaveCalling command key)
    (result : Except String LeaveGroupOutcome) :
    Answered (state.leaveReturned command key result).1
      (history ++ (state.leaveReturned command key result).2) := by
  have booked := holds.booked
  rw [actor] at booked
  rcases booked with ⟨leave, opened, same, empty, silent, pending, departed⟩
  cases result with
  | ok outcome =>
      have warnings : ∀ entry ∈ (groupLeaveWarningMessages outcome).map
          (GroupOperationsEntry.group <| .emitted <| Event.error · false), entry.Background := by
        intro entry member
        rcases List.mem_map.mp member with ⟨text, -, rfl⟩
        exact background_error text
      have entries : (state.leaveReturned command key (.ok outcome)).2 =
          [.leaveEnded key true, .group <| .emitted
            { kind := .groupLeft, requestId := command.requestId
              chatId := some command.groupKey }] ++
          (groupLeaveWarningMessages outcome).map
            (GroupOperationsEntry.group <| .emitted <| Event.error · false) := by
        simp [GroupOperations.leaveReturned, groupLeaveCompletionEvents]
      have inner : ∀ entry ∈ (state.leaveReturned command key (.ok outcome)).2,
          entry.Inner := by
        rw [entries]
        intro entry member
        rcases List.mem_append.mp member with first | warning
        · simp only [List.mem_cons, List.not_mem_nil, or_false] at first
          rcases first with rfl | rfl <;> trivial
        · exact (warnings entry warning).inner
      constructor
      · refine ⟨leave.note (state.leaveReturned command key (.ok outcome)).2, ?_, same, ?_, ?_,
          { kind := .groupLeft, requestId := command.requestId
            chatId := some command.groupKey }, ?_, rfl⟩
        · rw [openLeave_append inner, opened]
          rfl
        · simp [GroupOperations.leaveReturned, groupLeaveCompletionEvents,
            DepartedGroups.markDeparted, departed, DepartedGroups.beginLeave, empty]
        · rw [OpenLeave.accepted_note, entries]
          exact Or.inr ⟨key, by simp⟩
        · rw [entries, OpenLeave.note_append, OpenLeave.reports_note_of_background _ warnings,
            OpenLeave.reports_note, silent]
          simp [List.filterMap_cons, GroupOperationsEntry.event, GroupEntry.event, same]
      · exact settled_of_inner holds.settled inner
      · simp [GroupOperations.leaveReturned, pendingEntries]
  | error error =>
      have restored := cancelLeave_announced empty command.groupKey true
      rw [← departed] at restored
      have ended : (GroupOperationsEntry.leaveEnded key false).Background :=
        ⟨trivial, by simp, by simp [GroupOperationsEntry.event]⟩
      have settled := settled_of_failure same silent pending
        ("Could not leave the Signal group: " ++ error) [.leaveEnded key false]
        (by simpa using ended)
      have finished : Answered (state.leaveReturned command key (.error error)).1
          (history ++ (_ ++ [_])) :=
        holds.finish opened (by simp [GroupOperationsEntry.Inner]) settled rfl
          (by simp [GroupOperations.leaveReturned, groupLeaveCompletionEvents, restored, empty])
      rw [same] at finished
      simpa [GroupOperations.leaveReturned, groupLeaveCompletionEvents, restored] using finished

theorem Answered.attempted (holds : Answered state history) {origin : AttemptOrigin}
    {groupsAuthoritative : Bool} (actor : state.actor = .attempting origin groupsAuthoritative []) :
    Answered (state.attempted origin).1 (history ++ (state.attempted origin).2) := by
  have booked := holds.booked
  rw [actor] at booked
  cases origin with
  | send command =>
      exact holds.quiet rfl (by rw [actor]; rfl) rfl (by simp [GroupOperations.attempted,
        pendingEntries]) (by simp [GroupOperations.attempted])
  | retry =>
      exact holds.quiet rfl (by rw [actor]; rfl) rfl (by simp [GroupOperations.attempted,
        pendingEntries]) (by simp [GroupOperations.attempted])
  | leave command =>
      rcases booked with ⟨leave, opened, rfl, empty, accepted, event, reported, kind⟩
      have whole : leave.note [] = leave := by simp [OpenLeave.note]
      have settled : (leave.note []).Settled state.departed := by
        rw [whole]
        exact ⟨⟨event, reported, iff_of_true kind accepted⟩, fun pending => absurd accepted pending⟩
      exact holds.finish opened (by simp) settled rfl empty

theorem Answered.leaveCleanup (holds : Answered state history) {command : LeaveCommand}
    (actor : state.actor = .leaveAccepted command) (expedite : StoreWrite) (clockMs : Nat)
    (readError : Option StoreError) :
    Answered (state.leaveCleanup command expedite clockMs readError).1
      (history ++ (state.leaveCleanup command expedite clockMs readError).2) := by
  have expedited := expediteOutbox_spec
    { state.outbox with cache := state.outbox.cache.removeGroupIndex command.groupKey }
    command.groupKey expedite
  apply holds.background
  · rfl
  · rw [actor]
    rfl
  · simp [GroupOperations.leaveCleanup, pendingEntries]
  · intro entry member
    rcases List.mem_append.mp member with cleaned | read
    · rcases List.mem_map.mp cleaned with ⟨inner, isInner, rfl⟩
      rcases expedited.2 inner isInner with ⟨text, rfl⟩
      exact background_error text
    · rcases readOutbox_entries read with ⟨text, rfl⟩
      exact ⟨trivial, by simp, by rintro event ⟨⟩; rfl⟩

theorem Answered.upload (holds : Answered state history)
    (departed : next.departed = state.departed) (actor : next.actor = state.actor)
    (background : ∀ entry ∈ entries, entry.Background) : Answered next (history ++ entries) :=
  holds.background departed (by rw [actor]) (by rw [actor]; exact holds.performing) background

theorem Answered.step {label : GroupOperationsLabel} (holds : Answered state history)
    (stepped : state.step account label = some (next, entries)) :
    Answered next (history ++ entries) := by
  cases transition_of_step stepped with
  | session idle changed => exact holds.upload rfl rfl (by simp)
  | @send command outcomes idle =>
      have quiet : stage state.actor = .quiet := by rw [idle]; rfl
      rcases takeSend_cases state command outcomes with ⟨outbox, -, ended | attempting⟩
      · rcases ended with ⟨shown, taken⟩
        rw [taken]
        exact holds.quiet rfl quiet quiet holds.performing fun entry => inner_of_group
      · rcases attempting with ⟨message, -, taken⟩
        rw [taken]
        exact holds.quiet rfl quiet rfl (by simp [pendingEntries]) (by simp)
  | retry idle =>
      apply holds.quiet
      · rfl
      · rw [idle]
        rfl
      · rfl
      · simp [takeRetry, pendingEntries]
      · intro entry read
        rcases readOutbox_entries read with ⟨text, rfl⟩
        trivial
  | skip actor =>
      exact holds.background rfl (by rw [actor]; rfl) (by simp [pendingEntries]) (by simp)
  | @attempt outcomes origin groupsAuthoritative message later actor attempts ready =>
      simp only [GroupOperations.attempt]
      split
      next key called =>
        refine holds.background rfl (by rw [actor]; rfl) anonymous_performAttempt ?_
        simpa using (background_send .actor key state.session.groups).1
      next => exact holds.attemptEnded message rfl (by rw [actor]; rfl) rfl anonymous_performAttempt
  | @sent origin groupsAuthoritative message performed key later actor =>
      have ended : Answered state (history ++ [.sendEnded .actor key]) :=
        holds.upload rfl rfl (by simpa using (background_send .actor key .pending).2)
      have anonymous : ∀ entry ∈ performed.entries, AnonymousOutbox entry := by
        have performing := holds.performing
        rw [actor] at performing
        exact performing
      rw [GroupOperations.sent, List.append_cons]
      exact ended.attemptEnded message rfl (by rw [actor]; rfl) rfl anonymous
  | attempted actor => exact holds.attempted actor
  | leave idle => exact holds.takeLeave idle _
  | refuse actor => exact holds.abandon actor _ _
  | @leaveLookup reads command actor free =>
      unfold GroupOperations.leaveLookup
      split
      · exact holds.abandon actor _ _
      · exact holds.abandon actor _ _
      · exact holds.background rfl (by rw [actor]; rfl) (by simp [pendingEntries])
          (by simpa using ⟨trivial, by simp, by simp [GroupOperationsEntry.event]⟩)
  | leaveReturned actor => exact holds.leaveReturned actor _
  | leaveCleanup actor => exact holds.leaveCleanup actor _ _ _
  | shutdown =>
      constructor
      · trivial
      · apply settled_of_inner holds.settled
        intro entry member
        change entry ∈ interrupted state.actor at member
        unfold interrupted at member
        split at member
        · cases List.mem_singleton.mp member
          trivial
        · cases List.mem_singleton.mp member
          trivial
        · cases member
      · simp [GroupOperations.shutdown, pendingEntries]
  | spawn idle authority unused => exact holds.upload rfl rfl (by simp)
  | uploadLookup upload =>
      simp only [GroupOperations.uploadLookup]
      split <;> exact holds.upload rfl rfl (by simp)
  | uploadLock upload free => exact holds.upload rfl rfl (by simp)
  | @uploadCheck task reads key upload =>
      unfold GroupOperations.uploadCheck
      split
      · refine holds.upload rfl rfl ?_
        simpa using (background_send (.upload task) key state.session.groups).1
      · exact holds.upload rfl rfl (by simp)
      · exact holds.upload rfl rfl (by simp)
  | @uploadEnd task upload isUpload =>
      cases upload with
      | sending key =>
          refine holds.upload rfl rfl ?_
          simpa [ended] using (background_send (.upload task) key .pending).2
      | started identifier => exact holds.upload rfl rfl (by simp [ended])
      | uploading key => exact holds.upload rfl rfl (by simp [ended])
      | locked key => exact holds.upload rfl rfl (by simp [ended])

theorem answered_of_run {labels : List GroupOperationsLabel}
    (runs : (machine account).run labels = some (state, history)) : Answered state history := by
  apply Machine.run_invariant (machine account) answered_initial _ runs
  exact fun state earlier label next entries holds stepped => holds.step stepped

end Invariant

/-! ## Leaves and sends in every run -/

structure LeaveLaw (state : GroupOperations) (history : List GroupOperationsEntry) : Prop where
  noSendAfter : ∀ before key after, history = before ++ .leaveEnded key true :: after →
    ∀ user groups, .sendStarted user key groups ∉ after
  noOverlap : ∀ command key, state.actor = .leaveCalling command key →
    ∀ user, ¬ state.Sending key user
  settled : ∀ before command departed after,
    history = before ++ .leaveFinished command departed :: after →
      ∃ leave, openLeave before = some leave ∧ leave.command = command ∧ leave.Settled departed

theorem leaveLaw_of_run {account : Account} {labels : List GroupOperationsLabel}
    {final : GroupOperations} {history : List GroupOperationsEntry}
    (runs : (machine account).run labels = some (final, history)) : LeaveLaw final history := by
  have exclusive := exclusive_of_run runs
  have answered := answered_of_run runs
  constructor
  · rintro before key after rfl user groups started
    rcases List.append_of_mem started with ⟨between, later, rfl⟩
    have notLeft := exclusive.ordered (before ++ .leaveEnded key true :: between)
      (.sendStarted user key groups) later (by simp)
    exact notLeft (by simp)
  · intro command key calling user sending
    have actorInside : final.Inside .actor := by simp [Inside, calling, GroupActor.locks]
    have same := exclusive.guards.exclusive actorInside (inside_of_sending sending)
    subst same
    rcases sending with ⟨origin, groupsAuthoritative, message, performed, later, isSending⟩
    rw [calling] at isSending
    cases isSending
  · intro before command departed after split
    exact answered.settled before _ after split

def sampleLeave : List GroupOperationsLabel :=
  [.session .ready, .session (.groupSynced (.ok ())), .spawn 1 "sevens",
    .upload 1 (.lookup GroupSession.acceptedLeave.reads),
    .leave { requestId := 5, groupKey := "sevens", named := by decide },
    .leaveLookup GroupSession.acceptedLeave.reads,
    .leaveReturned GroupSession.acceptedLeave.leave, .leaveCleanup .stored 0 none, .attempted,
    .upload 1 .lock, .upload 1 (.check GroupSession.acceptedLeave.reads)]

theorem leaveLaw_of_sampleLeave :
    ∃ final history, (machine GroupSession.ownAccount).run sampleLeave = some (final, history) ∧
      LeaveLaw final history := by
  have defined : ((machine GroupSession.ownAccount).run sampleLeave).isSome = true := by
    decide +kernel
  rcases Option.isSome_iff_exists.mp defined with ⟨⟨final, history⟩, runs⟩
  exact ⟨final, history, runs, leaveLaw_of_run runs⟩

end GroupOperations

end SignalPurple
