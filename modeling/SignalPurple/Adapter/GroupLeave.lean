import SignalPurple.Adapter.Effects
import SignalPurple.Foundation.Machine

/-! # Leaving a group from the buddy list

The user asks to leave a group, confirms it and may send to groups all the while; the core
answers with events in its own time. While a leave is pending, nothing more is sent to its
group. The adapter remembers the group of a pending leave, and not which request it was.
-/

namespace SignalPurple

structure GroupLeaveRequest where
  groupKey : String
  title : String
  deriving DecidableEq

structure LeaveRun where
  connection : Reconciler
  groupLeaveRequests : List GroupLeaveRequest := []
  /-- The request by which a group is being left, from the time it is queued until its own
  outcome arrives or a snapshot deactivates the group. Nobody in the adapter knows it. -/
  requested : String → Option UInt64 := fun _ => none

inductive LeaveLabel where
  /-- The entry of the menu; the question may fail to be shown. -/
  | requestLeave (chat : Chat) (asked : Bool)
  | cancelLeave (request : GroupLeaveRequest)
  /-- The answer, and how the core takes the request. -/
  | confirmLeave (request : GroupLeaveRequest) (status : Int)
  /-- A message is typed; its conversation and text may be unfit. -/
  | chatSend (groupKey : String) (fit : Bool) (status : Int)
  | event (event : SignalEvent) (moment : Surroundings)
  | groupSyncTimeout

inductive LeaveEntry where
  | queuedLeave (requestId : UInt64) (groupKey : String)
  | queuedMessage (requestId : UInt64) (groupKey : String)
  | told (calls : List AdapterCall)
  /-- An event was dispatched while this request was out for the group it names. -/
  | dispatched (requested : Option UInt64) (event : SignalEvent) (calls : List AdapterCall)
  deriving DecidableEq

namespace LeaveRun

variable (account : AccountId) (library : BuddyListLibrary)

def groupLeavePrompted (run : LeaveRun) (groupKey : String) : Bool :=
  run.groupLeaveRequests.any (·.groupKey == groupKey)

def requestGroupLeave (run : LeaveRun) (chat : Chat) (asked : Bool) : LeaveRun :=
  let groupKey := chat.chatId.getD ""
  if !chat.synced || run.connection.closing || chat.chatId.isNone ||
      !run.connection.groupIsActive groupKey ||
      decide (groupKey ∈ run.connection.pendingGroupLeaves) ||
      run.groupLeavePrompted groupKey || !asked then run
  else
    let title := if isBlank chat.name then groupTitle run.connection.groupTitles groupKey
      else chat.name.getD ""
    { run with groupLeaveRequests := run.groupLeaveRequests ++ [{ groupKey, title }] }

def finishGroupLeaveRequest (run : LeaveRun) (request : GroupLeaveRequest) : LeaveRun :=
  { run with groupLeaveRequests := run.groupLeaveRequests.erase request }

def statusOk : Int := 0

def queueLeave (run : LeaveRun) (groupKey : String) : LeaveRun :=
  let connection := run.connection
  { run with
    connection :=
      { connection with
        nextRequestId := connection.nextRequestId + 1
        pendingGroupLeaves := insert groupKey connection.pendingGroupLeaves }
    requested := Function.update run.requested groupKey (some connection.nextRequestId) }

def takeRequestId (run : LeaveRun) : LeaveRun :=
  { run with
    connection := { run.connection with nextRequestId := run.connection.nextRequestId + 1 } }

def confirmGroupLeave (run : LeaveRun) (request : GroupLeaveRequest) (status : Int) :
    LeaveRun × List LeaveEntry :=
  if run.connection.closing then (run.finishGroupLeaveRequest request, [])
  else if !run.connection.groupIsActive request.groupKey then
    (run.finishGroupLeaveRequest request,
      [.told [.notifyError "Signal group unavailable" "The group is no longer active"
        "Reconnect and check the Signal group list."]])
  else if request.groupKey ∈ run.connection.pendingGroupLeaves then
    (run.finishGroupLeaveRequest request, [])
  else if status = statusOk then
    ((run.queueLeave request.groupKey).finishGroupLeaveRequest request,
      [.queuedLeave run.connection.nextRequestId request.groupKey,
        .told [.debug "Queued remote Signal group leave\n",
          .notifyInfo "Leaving Signal group" (some request.title)
            (some "The chat will be removed after Signal confirms the leave.")]])
  else
    (run.takeRequestId.finishGroupLeaveRequest request,
      [.told [.notifyError "Could not leave Signal group" "The request could not be queued"
        "Reconnect the account and try again."]])

def chatSend (run : LeaveRun) (groupKey : String) (fit : Bool) (status : Int) :
    LeaveRun × List LeaveEntry :=
  if run.connection.closing || !run.connection.groupCanSend groupKey || !fit then (run, [])
  else
    (run.takeRequestId,
      if status = statusOk then [.queuedMessage run.connection.nextRequestId groupKey] else [])

/-- The event is the outcome of the leave that was requested for the group, or deactivates
the group. -/
def settles (run : LeaveRun) (event : SignalEvent) (groupKey : String) : Bool :=
  (Reconciler.isOutcome event && event.chatId == some groupKey &&
      run.requested groupKey == some event.requestId) ||
    decide (groupKey ∈ run.connection.deactivated event)

def handleEvent (run : LeaveRun) (event : SignalEvent) (moment : Surroundings) :
    LeaveRun × List LeaveEntry :=
  ({ run with
      connection := run.connection.afterEvent account library moment event
      requested := fun groupKey =>
        if run.settles event groupKey then none else run.requested groupKey },
    [.dispatched (event.chatId.bind run.requested) event
      (run.connection.dispatched account library moment event).calls])

def groupSyncTimeout (run : LeaveRun) : LeaveRun :=
  let connection := run.connection
  { run with
    connection :=
      { connection with
        groupSyncFallbackTimer := false
        groupSnapshotComplete := true
        pendingGroupJoins := if connection.groupSnapshotComplete then connection.pendingGroupJoins
          else ∅ } }

/-- A chat of the list is chosen, a question that was asked is answered, a timer that runs
goes off. -/
def step (run : LeaveRun) : LeaveLabel → Option (LeaveRun × List LeaveEntry)
  | .requestLeave chat asked =>
      if chat ∈ run.connection.list.chats.nodes ∧ chat.account = account then
        some (run.requestGroupLeave chat asked, [])
      else none
  | .cancelLeave request =>
      if request ∈ run.groupLeaveRequests then some (run.finishGroupLeaveRequest request, [])
      else none
  | .confirmLeave request status =>
      if request ∈ run.groupLeaveRequests then some (run.confirmGroupLeave request status)
      else none
  | .chatSend groupKey fit status => some (run.chatSend groupKey fit status)
  | .event event moment => some (run.handleEvent account library event moment)
  | .groupSyncTimeout =>
      if run.connection.groupSyncFallbackTimer then some (run.groupSyncTimeout, []) else none

def machine (list : BuddyList) : Machine LeaveRun LeaveLabel LeaveEntry where
  initial := { connection := Reconciler.initial {} list }
  step := step account library

/-! ## Pending leaves and their requests -/

/-- An outcome that arrives for a group that is being left is the outcome of that leave. -/
def OwnOutcomes (run : LeaveRun) : LeaveLabel → Prop
  | .event event _ => Reconciler.isOutcome event = true →
      ∀ requestId, event.chatId.bind run.requested = some requestId → event.requestId = requestId
  | _ => True

def checkOwnOutcomes (run : LeaveRun) : LeaveLabel → Bool
  | .event event _ => !Reconciler.isOutcome event ||
      (event.chatId.bind run.requested).all (event.requestId == ·)
  | _ => true

theorem ownOutcomes_of_check (run : LeaveRun) (label : LeaveLabel)
    (checked : run.checkOwnOutcomes label = true) : run.OwnOutcomes label := by
  cases label with
  | event event moment =>
      intro outcome requestId isRequested
      simpa [checkOwnOutcomes, outcome, isRequested] using checked
  | _ => trivial

/-- The groups that wait are those for which a leave was requested, and only the failure of
such a request was reported as a failed leave. -/
structure Tracked (run : LeaveRun) (entries : List LeaveEntry) : Prop where
  pending : ∀ groupKey, groupKey ∈ run.connection.pendingGroupLeaves ↔
    (run.requested groupKey).isSome = true
  reports : ∀ requested event calls, .dispatched requested event calls ∈ entries →
    Reconciler.reportsFailedLeave calls = true →
      EventKind.ofCode event.kind = some .error ∧ requested = some event.requestId

variable {account library} {run next : LeaveRun} {history entries : List LeaveEntry}

theorem Tracked.quiet (holds : run.Tracked history)
    (samePending : next.connection.pendingGroupLeaves = run.connection.pendingGroupLeaves)
    (sameRequested : next.requested = run.requested)
    (silent : ∀ requested event calls, .dispatched requested event calls ∉ entries) :
    next.Tracked (history ++ entries) where
  pending := by
    rw [samePending, sameRequested]
    exact holds.pending
  reports := by
    intro requested event calls member
    rcases List.mem_append.mp member with earlier | new
    · exact holds.reports requested event calls earlier
    · exact absurd new (silent requested event calls)

theorem Tracked.queue (holds : run.Tracked history) (request : GroupLeaveRequest)
    (silent : ∀ requested event calls, .dispatched requested event calls ∉ entries) :
    ((run.queueLeave request.groupKey).finishGroupLeaveRequest request).Tracked
      (history ++ entries) where
  pending := by
    intro groupKey
    by_cases isIt : groupKey = request.groupKey
    · simp [finishGroupLeaveRequest, queueLeave, isIt]
    · simp [finishGroupLeaveRequest, queueLeave, isIt, holds.pending]
  reports := (holds.quiet rfl rfl silent).reports

theorem Tracked.confirm (holds : run.Tracked history) (request : GroupLeaveRequest)
    (status : Int) :
    (run.confirmGroupLeave request status).1.Tracked
      (history ++ (run.confirmGroupLeave request status).2) := by
  unfold confirmGroupLeave
  split
  · exact holds.quiet rfl rfl (by simp)
  split
  · exact holds.quiet rfl rfl (by simp)
  split
  · exact holds.quiet rfl rfl (by simp)
  split
  · exact holds.queue request (by simp)
  · exact holds.quiet rfl rfl (by simp)

theorem Tracked.send (holds : run.Tracked history) (groupKey : String) (fit : Bool)
    (status : Int) :
    (run.chatSend groupKey fit status).1.Tracked
      (history ++ (run.chatSend groupKey fit status).2) := by
  unfold chatSend
  split
  · exact holds.quiet rfl rfl (by simp)
  · refine Tracked.quiet holds ?_ ?_ ?_
    · rfl
    · rfl
    · intro requested event calls
      dsimp only
      split <;> simp

theorem settles_iff {event : SignalEvent} {moment : Surroundings}
    (own : run.OwnOutcomes (.event event moment)) {groupKey : String} {requestId : UInt64}
    (isRequested : run.requested groupKey = some requestId) :
    run.settles event groupKey = true ↔
      (Reconciler.isOutcome event = true ∧ event.chatId = some groupKey) ∨
        groupKey ∈ run.connection.deactivated event := by
  have answers : Reconciler.isOutcome event = true → event.chatId = some groupKey →
      requestId = event.requestId := by
    intro outcome isChat
    exact (own outcome requestId (by simp [isChat, isRequested])).symm
  simp only [settles, isRequested, Bool.or_eq_true, Bool.and_eq_true, beq_iff_eq,
    decide_eq_true_eq, Option.some.injEq]
  constructor
  · rintro (⟨outcome, _⟩ | deactivated)
    · exact Or.inl outcome
    · exact Or.inr deactivated
  · rintro (outcome | deactivated)
    · exact Or.inl ⟨outcome, answers outcome.1 outcome.2⟩
    · exact Or.inr deactivated

theorem Tracked.event (holds : run.Tracked history) {event : SignalEvent}
    {moment : Surroundings} (own : run.OwnOutcomes (.event event moment)) :
    (run.handleEvent account library event moment).1.Tracked
      (history ++ (run.handleEvent account library event moment).2) where
  pending := by
    intro groupKey
    simp only [handleEvent, Reconciler.mem_pendingGroupLeaves_afterEvent, holds.pending]
    cases isRequested : run.requested groupKey with
    | none => simp
    | some requestId =>
        have settled := settles_iff own isRequested
        by_cases isSettled : run.settles event groupKey = true
        · have ended := settled.mp isSettled
          rw [if_pos isSettled]
          simp only [Option.isSome_none, Bool.false_eq_true, iff_false]
          tauto
        · have goesOn := mt settled.mpr isSettled
          rw [if_neg isSettled]
          simp only [Option.isSome_some]
          tauto
  reports := by
    intro requested event' calls member reported
    rcases List.mem_append.mp member with earlier | new
    · exact holds.reports requested event' calls earlier reported
    · simp only [handleEvent, List.mem_singleton, LeaveEntry.dispatched.injEq] at new
      rcases new with ⟨rfl, rfl, rfl⟩
      rcases Reconciler.outcome_of_reportsFailedLeave reported with
        ⟨isError, outcome, groupKey, pending, isChat⟩
      rcases Option.isSome_iff_exists.mp ((holds.pending groupKey).mp pending) with
        ⟨requestId, isRequested⟩
      have bound : event'.chatId.bind run.requested = some requestId := by
        simp [isChat, isRequested]
      exact ⟨isError, bound.trans (congrArg some (own outcome requestId bound).symm)⟩

theorem Tracked.step (holds : run.Tracked history) {label : LeaveLabel}
    (own : run.OwnOutcomes label)
    (stepped : LeaveRun.step account library run label = some (next, entries)) :
    next.Tracked (history ++ entries) := by
  cases label with
  | requestLeave chat asked =>
      simp only [LeaveRun.step] at stepped
      split at stepped
      · obtain ⟨rfl, rfl⟩ := Machine.reached_of_some stepped
        unfold requestGroupLeave
        dsimp only
        split
        · exact holds.quiet rfl rfl (by simp)
        · exact holds.quiet rfl rfl (by simp)
      · cases stepped
  | cancelLeave request =>
      simp only [LeaveRun.step] at stepped
      split at stepped
      · obtain ⟨rfl, rfl⟩ := Machine.reached_of_some stepped
        exact holds.quiet rfl rfl (by simp)
      · cases stepped
  | confirmLeave request status =>
      simp only [LeaveRun.step] at stepped
      split at stepped
      · obtain ⟨rfl, rfl⟩ := Machine.reached_of_some stepped
        exact holds.confirm request status
      · cases stepped
  | chatSend groupKey fit status =>
      obtain ⟨rfl, rfl⟩ := Machine.reached_of_some stepped
      exact holds.send groupKey fit status
  | event event moment =>
      obtain ⟨rfl, rfl⟩ := Machine.reached_of_some stepped
      exact holds.event own
  | groupSyncTimeout =>
      simp only [LeaveRun.step] at stepped
      split at stepped
      · obtain ⟨rfl, rfl⟩ := Machine.reached_of_some stepped
        exact holds.quiet rfl rfl (by simp)
      · cases stepped

/-- While a leave is requested its group waits and nothing can be sent to it. A leave is
reported as failed for the error of its own request. -/
structure PendingLeaveLaw (run : LeaveRun) (entries : List LeaveEntry) : Prop where
  waits : ∀ groupKey requestId, run.requested groupKey = some requestId →
    groupKey ∈ run.connection.pendingGroupLeaves ∧
      run.connection.groupCanSend groupKey = false
  reports : ∀ requested event calls, .dispatched requested event calls ∈ entries →
    Reconciler.reportsFailedLeave calls = true →
      EventKind.ofCode event.kind = some .error ∧ requested = some event.requestId

/-- In every run in which a group that is being left hears of no other request, a pending
leave ends with its own outcome or with the group. -/
theorem pendingLeaveLaw_of_run (account : AccountId) (library : BuddyListLibrary) (list : BuddyList)
    {labels : List LeaveLabel}
    (own : (machine account library list).StepsMeet OwnOutcomes
      (machine account library list).initial labels)
    (runs : (machine account library list).run labels = some (run, entries)) :
    run.PendingLeaveLaw entries := by
  have starts : (machine account library list).initial.Tracked [] :=
    ⟨by simp [machine, Reconciler.initial], by simp⟩
  have tracked : run.Tracked entries :=
    Machine.run_invariant_of_steps (machine account library list) starts
      (fun _ _ _ _ _ holds meets stepped => holds.step meets stepped) own runs
  refine ⟨?_, tracked.reports⟩
  intro groupKey requestId isRequested
  have pending : groupKey ∈ run.connection.pendingGroupLeaves :=
    (tracked.pending groupKey).mpr (by simp [isRequested])
  exact ⟨pending, by simp [AdapterState.groupCanSend, pending]⟩

/-! A message is sent to a group, the group is left, and then the core answers. -/

def plainSurroundings : Surroundings where
  purple := plainPurple
  walk := Walk.inOrder
  others := { run := fun _ state _ => state, keepsLeaves := fun _ _ _ => rfl }

def savedChat : Chat where
  id := 0
  account := 1
  group := "Chats"
  groupId := some "group"
  title := some "Friends"
  synced := true
  syncedTitle := some "Friends"

def leaveAfterSend (answer : Event) : List LeaveLabel :=
  [.event (.ofEvent { kind := .groupSyncBegin }) plainSurroundings,
    .event (.ofEvent { kind := .group, chatId := some "group", title := some "Friends" })
      plainSurroundings,
    .event (.ofEvent { kind := .groupSyncEnd, value := 1 }) plainSurroundings,
    .chatSend "group" true 0,
    .requestLeave savedChat true,
    .confirmLeave ⟨"group", "Friends"⟩ 0,
    .event (.ofEvent answer) plainSurroundings]

theorem pendingLeaveLaw_of_leaveAfterSend :
    ∃ run entries, (machine 1 Reconciler.englishLibrary {}).run
        (leaveAfterSend (.groupRequestError 2 "group" "network down")) = some (run, entries) ∧
      run.PendingLeaveLaw entries := by
  have own : (machine 1 Reconciler.englishLibrary {}).StepsMeet OwnOutcomes
      (machine 1 Reconciler.englishLibrary {}).initial
      (leaveAfterSend (.groupRequestError 2 "group" "network down")) := by
    apply Machine.stepsMeet_of_checkSteps _ ownOutcomes_of_check
    decide +kernel
  have defined : ((machine 1 Reconciler.englishLibrary {}).run
      (leaveAfterSend (.groupRequestError 2 "group" "network down"))).isSome = true := by
    decide +kernel
  rcases Option.isSome_iff_exists.mp defined with ⟨⟨run, entries⟩, runs⟩
  exact ⟨run, entries, runs, pendingLeaveLaw_of_run 1 Reconciler.englishLibrary {} own runs⟩

/-- The message fails for good: the leave, which is still out, is taken to have failed, and
messages can be sent to the group again. -/
theorem failed_message_ends_leave :
    ∃ run entries, (machine 1 Reconciler.englishLibrary {}).run
        (leaveAfterSend (.groupRequestError 1 "group"
          "Signal group is unavailable or this account is no longer a member")) =
          some (run, entries) ∧
      (run.requested "group" == some 2 &&
        !decide ("group" ∈ run.connection.pendingGroupLeaves) &&
        run.connection.groupCanSend "group" &&
        entries.any fun
          | .dispatched (some 2) event calls =>
              event.requestId == 1 && Reconciler.reportsFailedLeave calls
          | _ => false) = true := by
  have reached : ((machine 1 Reconciler.englishLibrary {}).run
      (leaveAfterSend (.groupRequestError 1 "group"
          "Signal group is unavailable or this account is no longer a member"))).any
        (fun reached => reached.1.requested "group" == some 2 &&
          !decide ("group" ∈ reached.1.connection.pendingGroupLeaves) &&
          reached.1.connection.groupCanSend "group" &&
          reached.2.any fun
            | .dispatched (some 2) event calls =>
                event.requestId == 1 && Reconciler.reportsFailedLeave calls
            | _ => false) = true := by
    decide +kernel
  rcases (Option.any_eq_true _ _).mp reached with ⟨⟨run, entries⟩, runs, found⟩
  exact ⟨run, entries, runs, found⟩

end LeaveRun

end SignalPurple
