import SignalPurple.Core.Leave
import SignalPurple.Foundation.Machine

/-! # Group messages across leaves

Leave commands, changes of the stored group records and projections of data messages in
one session, in any order. A group that was left is remembered until the session ends,
whatever its record says later.
-/

namespace SignalPurple

/-- A leave command that the dispatch loop has taken up and not finished. -/
structure PendingLeave where
  requestId : UInt64
  groupKey : String
  groupsAuthoritative : Bool

structure GroupSession where
  departed : DepartedGroups := {}
  outbox : OutboxState := {}
  /-- The records of the store. -/
  records : AList fun _ : GroupKey => Group := ∅
  pendingLeave : Option PendingLeave := none

inductive GroupLabel where
  /-- The store learns a group's state, or forgets the group. -/
  | recordChanged (key : GroupKey) (record : Option Group)
  /-- The dispatch loop takes up a leave command. -/
  | leave (requestId : UInt64) (groupKey : String) (groupsAuthoritative : Bool)
  | leaveHandled (outcomes : LeaveOutcomes)
  /-- `emit_data_message` runs; the read of the group's record may fail. -/
  | project (projection : DataMessageProjection) (readError : Option StoreError)
      (download : Nat → Except String Bytes) (transcode : Nat → Option Bytes)

namespace GroupSession

def changeRecord (session : GroupSession) (key : GroupKey) : Option Group → GroupSession
  | some record => { session with records := session.records.insert key record }
  | none => { session with records := session.records.erase key }

/-- The loop announces a leave that `handle_command` will not refuse outright. -/
def takeUpLeave (session : GroupSession) (leave : PendingLeave) : GroupSession :=
  { session with
    departed :=
      if leave.groupsAuthoritative then session.departed.beginLeave leave.groupKey
      else session.departed
    pendingLeave := some leave }

def readGroup (session : GroupSession) (message : DataMessage) :
    Option StoreError → Except StoreError (Option Group)
  | some error => .error error
  | none =>
      match groupMessageTarget message with
      | .group key => .ok (session.records.lookup key)
      | .direct | .malformed => .ok none

/-- The actor is suspended while the message is handled, so no group departs meanwhile. -/
def presentation (session : GroupSession) (message : DataMessage)
    (readError : Option StoreError) (download : Nat → Except String Bytes)
    (transcode : Nat → Option Bytes) : PresentationOutcomes where
  departedAfter := session.departed
  group := session.readGroup message readError
  download
  transcode

variable (account : Account)

def finishLeave (session : GroupSession) (leave : PendingLeave) (outcomes : LeaveOutcomes) :
    GroupSession × List GroupEntry :=
  let handled := handleLeave account leave.groupsAuthoritative session.departed session.outbox
    leave.requestId leave.groupKey outcomes
  ({ session with
     departed := handled.departed, outbox := handled.state, pendingLeave := none },
    handled.entries)

def step (session : GroupSession) : GroupLabel → Option (GroupSession × List GroupEntry)
  | .recordChanged key record => some (session.changeRecord key record, [])
  | .leave requestId groupKey groupsAuthoritative =>
      match session.pendingLeave with
      | none => some (session.takeUpLeave { requestId, groupKey, groupsAuthoritative }, [])
      | some _ => none
  | .leaveHandled outcomes =>
      match session.pendingLeave with
      | none => none
      | some leave => some (session.finishLeave account leave outcomes)
  | .project projection readError download transcode =>
      match session.pendingLeave with
      | none =>
          let emitted := emitDataMessage account session.departed projection
            (session.presentation projection.message readError download transcode)
          some (session, emitted.1.map .emitted ++ [.projected projection.message emitted.2])
      | some _ => none

def machine : Machine GroupSession GroupLabel GroupEntry where
  initial := {}
  step := step account

/-! ## Departures -/

variable {account} {session next : GroupSession} {history entries : List GroupEntry}

def Left (history : List GroupEntry) (identifier : String) : Prop :=
  ∃ key, .leaveCalled identifier key true ∈ history

theorem left_append (identifier : String) :
    Left (history ++ entries) identifier ↔ Left history identifier ∨ Left entries identifier := by
  simp [Left, exists_or]

/-- The departed groups are those that were left. -/
def Remembers (session : GroupSession) (history : List GroupEntry) : Prop :=
  ∀ identifier, identifier ∈ session.departed.departed ↔ Left history identifier

theorem Remembers.step {label : GroupLabel} (remembers : Remembers session history)
    (stepped : session.step account label = some (next, entries)) :
    Remembers next (history ++ entries) := by
  intro identifier
  rw [left_append, ← remembers identifier]
  cases label with
  | recordChanged key record =>
      cases stepped
      cases record <;> simp [changeRecord, Left]
  | leave requestId groupKey groupsAuthoritative =>
      simp only [GroupSession.step] at stepped
      split at stepped
      · cases stepped
        cases groupsAuthoritative <;> simp [takeUpLeave, DepartedGroups.beginLeave, Left]
      · cases stepped
  | leaveHandled outcomes =>
      simp only [GroupSession.step] at stepped
      split at stepped
      · cases stepped
      · cases stepped
        exact departed_handleLeave identifier
  | project projection readError download transcode =>
      simp only [GroupSession.step] at stepped
      split at stepped
      · cases stepped
        simp [Left]
      · cases stepped

theorem remembers_of_run {labels : List GroupLabel}
    (runs : (machine account).run labels = some (session, history)) :
    Remembers session history := by
  refine (machine account).run_invariant ?_ ?_ runs
  · intro identifier
    simp [machine, Left]
  · intro session history label next entries remembers stepped
    exact remembers.step stepped

/-! ## Projections -/

theorem disposition_of_group_message {departed : DepartedGroups}
    {projection : DataMessageProjection} {outcomes : PresentationOutcomes} {key : GroupKey}
    (target : groupMessageTarget projection.message = .group key)
    (substance : dataMessageText projection.message ≠ "" ∨
      regularMessageAttachments projection.message ≠ []) :
    (emitDataMessage account departed projection outcomes).2 = .complete ↔
      groupForProjection account departed outcomes.departedAfter outcomes.group key =
        .ok .complete := by
  have notEmpty : ¬ (dataMessageText projection.message = "" ∧
      regularMessageAttachments projection.message = []) := by
    rintro ⟨noText, noAttachments⟩
    rcases substance with text | attachments
    · exact text noText
    · exact attachments noAttachments
  simp only [emitDataMessage, target, if_neg notEmpty]
  split <;> simp_all

/-- A member's message is settled without being shown only if the group was left. -/
theorem groupForProjection_of_member {departed : DepartedGroups} {key : GroupKey}
    {group : Group} {read : Except StoreError (Option Group)}
    (answer : read = .ok (some group) ∨ ∃ error, read = .error error)
    (member : groupContainsLocalAci group account.localAci = true)
    (notLeaving : account.groupIdentifier key ∉ departed.leaving) :
    groupForProjection account departed departed read key = .ok .complete ↔
      account.groupIdentifier key ∈ departed.departed := by
  by_cases left : account.groupIdentifier key ∈ departed.departed
  · have state := DepartedGroups.departureState_eq_departed.mpr left
    simp [groupForProjection, state, departedProjectionGroup, departureProjectionDisposition, left]
  · have state := DepartedGroups.departureState_eq_active.mpr ⟨left, notLeaving⟩
    have active : (some group).filter (groupContainsLocalAci · account.localAci) = some group := by
      simp [Option.filter, member]
    rcases answer with rfl | ⟨error, rfl⟩
    · simp [groupForProjection, state, departedProjectionGroup, departureProjectionDisposition,
        active, left]
    · simp [groupForProjection, state, departedProjectionGroup, departureProjectionDisposition,
        left]

/-- In every run of leaves, record changes and projections: while the store lists the
account as a member and no leave is under way, a group message with something to show is
settled without being shown exactly if a leave of its group was accepted earlier. -/
theorem run_settles_unshown_iff_left {labels : List GroupLabel}
    (runs : (machine account).run labels = some (session, history))
    {projection : DataMessageProjection} {key : GroupKey} {group : Group}
    (target : groupMessageTarget projection.message = .group key)
    (substance : dataMessageText projection.message ≠ "" ∨
      regularMessageAttachments projection.message ≠ [])
    (recorded : session.records.lookup key = some group)
    (member : groupContainsLocalAci group account.localAci = true)
    (notLeaving : account.groupIdentifier key ∉ session.departed.leaving)
    (readError : Option StoreError) (download : Nat → Except String Bytes)
    (transcode : Nat → Option Bytes) :
    (emitDataMessage account session.departed projection
        (session.presentation projection.message readError download transcode)).2 ≠ .complete ↔
      ¬ Left history (account.groupIdentifier key) := by
  have answer : session.readGroup projection.message readError = .ok (some group) ∨
      ∃ error, session.readGroup projection.message readError = .error error := by
    cases readError with
    | some error => exact Or.inr ⟨error, rfl⟩
    | none =>
        refine Or.inl ?_
        simp [readGroup, target, recorded]
  rw [not_iff_not, disposition_of_group_message target substance,
    ← remembers_of_run runs (account.groupIdentifier key)]
  exact groupForProjection_of_member answer member notLeaving

def groupMessage : DataMessage where
  body := some "hello"
  groupV2 := some { masterKey := some (List.replicate 32 7) }

def groupProjection : DataMessageProjection where
  message := groupMessage
  peer := "11111111-1111-4111-8111-111111111111"
  outgoing := false
  timestamp := 1000
  deliveryId := 1

def ownAccount : Account where
  localAci := ⟨"22222222-2222-4222-8222-222222222222"⟩
  parseRecipient := fun recipient => some (.aci ⟨recipient⟩)
  groupIdentifier := fun _ => "sevens"

def ownGroup : Group where
  title := "Sevens"
  revision := 3
  members := [ownAccount.localAci]

def acceptedLeave : LeaveOutcomes where
  reads := { group := fun _ => .ok (some ownGroup), groups := .ok [(.sevens, ownGroup)] }
  leave := .ok { peerNotificationSent := true, localGroupRemoved := true }
  expedite := .stored
  clockMs := 0
  readError := none
  retries := fun _ =>
    { reads := { group := fun _ => .ok none, groups := .ok [] }
      send := .sent
      markSent := fun _ => none
      finish := .stored
      clockMs := 0 }

theorem run_settles_unshown_iff_left_before_any_leave :
    ∃ session history,
      (machine ownAccount).run [.recordChanged .sevens (some ownGroup)] =
        some (session, history) ∧
      (emitDataMessage ownAccount session.departed groupProjection
        (session.presentation groupMessage none (fun _ => .error "") fun _ => none)).2 ≠
          .complete := by
  have reaches : ∃ session,
      (machine ownAccount).run [.recordChanged .sevens (some ownGroup)] = some (session, []) ∧
      session.records.lookup .sevens = some ownGroup ∧
      ownAccount.groupIdentifier .sevens ∉ session.departed.leaving :=
    ⟨_, rfl, rfl, by decide⟩
  rcases reaches with ⟨session, runs, recorded, notLeaving⟩
  refine ⟨session, [], runs, ?_⟩
  refine (run_settles_unshown_iff_left runs ?_ (Or.inl ?_) recorded ?_ notLeaving none _ _).mpr ?_
  · rfl
  · decide
  · decide
  · rintro ⟨key, member⟩
    cases member

/-- Left and joined again: the store lists the account as a member, no leave is under way,
and the message is settled without being shown. -/
theorem rejoined_group_message_settled_unshown :
    ∃ session history,
      (machine ownAccount).run
        [.recordChanged .sevens (some ownGroup), .leave 5 "sevens" true,
          .leaveHandled acceptedLeave, .recordChanged .sevens none,
          .recordChanged .sevens (some ownGroup)] = some (session, history) ∧
      session.records.lookup .sevens = some ownGroup ∧
      groupContainsLocalAci ownGroup ownAccount.localAci = true ∧
      session.pendingLeave = none ∧
      ownAccount.groupIdentifier .sevens ∉ session.departed.leaving ∧
      groupMessageTarget groupMessage = .group .sevens ∧
      dataMessageText groupMessage ≠ "" ∧
      (emitDataMessage ownAccount session.departed groupProjection
        (session.presentation groupMessage none (fun _ => .error "") fun _ => none)).2 =
          .complete :=
  ⟨_, _, rfl, rfl, by decide, rfl, by decide, rfl, by decide, rfl⟩

end GroupSession

end SignalPurple
