import SignalPurple.Core.Leave
import SignalPurple.Core.Outbox.Run
import SignalPurple.Core.Session

/-! # Operations on groups, interleaved

The actor sends text messages, retries the outbox and leaves groups, one after the other.
Uploads of group attachments are tasks of their own, which run whenever the actor waits.
A group send and a leave both hold the operation lock from the check of the membership to
the end of the call; everything else is interleaved freely.

An attempt of a row that reaches no group is one step. An attempt that calls
`send_message_to_group` is two, the call and its return.
-/

namespace SignalPurple

/-- A leave request; `signal_core_leave_group` does not queue one with the id zero. -/
structure LeaveCommand where
  requestId : UInt64
  groupKey : String
  named : requestId ≠ 0

/-- Who can hold the operation lock. -/
inductive GroupUser where
  | actor
  | upload (task : Nat)
  deriving DecidableEq

/-- Where `upload_and_send_attachment` is for a group. -/
inductive GroupUpload where
  | started (identifier : String)
  /-- The group was found; the upload is under way, or waits for the lock. -/
  | uploading (key : GroupKey)
  | locked (key : GroupKey)
  | sending (key : GroupKey)
  deriving DecidableEq

/-- The call an attempt belongs to. -/
inductive AttemptOrigin where
  | send (command : SendCommand)
  | retry
  | leave (command : LeaveCommand)

namespace AttemptOrigin

/-- `retry_outbox` skips what it may not attempt; a new message is always attempted. -/
def attempts (origin : AttemptOrigin) (groupsAuthoritative : Bool)
    (message : ClientOutboxMessage) : Bool :=
  match origin with
  | .send _ => true
  | .retry | .leave _ => outboxMessageIsAttemptable message.kind groupsAuthoritative

def notices (origin : AttemptOrigin) (message : ClientOutboxMessage) (performed : Performed) :
    List OutboxEntry :=
  match origin with
  | .send command => sendNotice command performed
  | .retry | .leave _ => retryNotice message performed

end AttemptOrigin

inductive GroupActor where
  | idle
  /-- Messages are left to attempt, under the authority of the call. -/
  | attempting (origin : AttemptOrigin) (groupsAuthoritative : Bool)
      (messages : List ClientOutboxMessage)
  /-- `send_message_to_group` was called; `performed` is how the attempt will end. -/
  | sending (origin : AttemptOrigin) (groupsAuthoritative : Bool)
      (message : ClientOutboxMessage) (performed : Performed) (key : GroupKey)
      (later : List ClientOutboxMessage)
  | leaveTaken (command : LeaveCommand) (groupsAuthoritative : Bool)
  /-- `leave_group` was called. -/
  | leaveCalling (command : LeaveCommand) (key : GroupKey)
  | leaveAccepted (command : LeaveCommand)
  | stopped

structure GroupOperations where
  session : SessionState := {}
  departed : DepartedGroups := {}
  outbox : OutboxState := {}
  lock : Option GroupUser := none
  actor : GroupActor := .idle
  uploads : AList fun _ : Nat => GroupUpload := ∅

inductive SessionChange where
  | ready
  | groupContent (hasGroupContext : Bool)
  /-- The snapshot of dirty groups was read again at the end of the queue. -/
  | refreshed (result : Except String Unit)
  | groupSynced (result : Except String Unit)
  | recover (error : String)

namespace SessionChange

def synced (session : SessionState) : Except String Unit → SessionState
  | .ok () => session.markGroupsAuthoritative
  | .error _ => session.markGroupsPending

def apply (session : SessionState) : SessionChange → Option SessionState
  | .ready => some session.markReady
  | .groupContent hasGroupContext => some (session.noteGroupContent hasGroupContext)
  | .refreshed result => if session.groupsDirty then some (synced session result) else none
  | .groupSynced result => some (synced session result)
  | .recover error => some (session.enterRecovery error).1

end SessionChange

inductive UploadAction where
  | lookup (reads : GroupReads)
  | lock
  | check (reads : GroupReads)
  /-- The task returns, fails somewhere or is aborted. -/
  | finish

inductive GroupOperationsLabel where
  | session (change : SessionChange)
  | send (command : SendCommand) (outcomes : SendOutcomes)
  | retry (clockMs : Nat) (readError : Option StoreError)
  | attempt (outcomes : AttemptOutcomes)
  | sent
  | attempted
  | leave (command : LeaveCommand)
  | leaveLookup (reads : GroupReads)
  | leaveReturned (result : Except String LeaveGroupOutcome)
  | leaveCleanup (expedite : StoreWrite) (clockMs : Nat) (readError : Option StoreError)
  /-- The worker is told to stop and drops what it awaits. -/
  | shutdown
  /-- The actor takes a group attachment. -/
  | spawn (task : Nat) (identifier : String)
  | upload (task : Nat) (action : UploadAction)

inductive GroupOperationsEntry where
  /-- `send_message_to_group` is called while the session knows this about its groups. -/
  | sendStarted (user : GroupUser) (key : GroupKey) (groups : GroupSnapshotState)
  | sendEnded (user : GroupUser) (key : GroupKey)
  | leaveStarted (key : GroupKey)
  | leaveEnded (key : GroupKey) (accepted : Bool)
  /-- A leave command is dequeued, or has run to its end, with the groups of that moment. -/
  | leaveTaken (command : LeaveCommand) (departed : DepartedGroups)
  | leaveFinished (command : LeaveCommand) (departed : DepartedGroups)
  | group (entry : GroupEntry)

namespace GroupOperations

variable (account : Account)

/-! ## Attempts -/

/-- The rows that `retry_outbox` is going to attempt. -/
def readOutbox (outbox : Outbox) (clockMs : Nat) :
    Option StoreError → List ClientOutboxMessage × List GroupOperationsEntry
  | none => (outbox.due clockMs, [])
  | some error =>
      ([], (error.events "Could not read the encrypted Signal outbox").map
        (.group <| .outbox <| .emitted ·))

def takeSend (state : GroupOperations) (command : SendCommand) (outcomes : SendOutcomes) :
    GroupOperations × List GroupOperationsEntry :=
  let groupsAuthoritative := state.session.groupsAuthoritative
  match acceptedSend account state.departed groupsAuthoritative state.outbox command outcomes with
  | none =>
      let handled := handleSend account state.departed groupsAuthoritative state.outbox command
        outcomes
      ({ state with outbox := handled.1 }, handled.2.map (.group <| .outbox ·))
  | some middle =>
      match outcomes.enqueue with
      | .failed error =>
          ({ state with outbox := middle },
            [.group <| .outbox <| .emitted <| sendFailure command (enqueueError error)])
      | .stored =>
          ({ state with
             outbox :=
               { middle with
                 outbox := middle.outbox.enqueue command.request.kind command.request.recipient
                   command.request.body outcomes.timestamp }
             actor := .attempting (.send command) groupsAuthoritative
               [newMessage middle.outbox command.request outcomes.timestamp] }, [])

def takeRetry (state : GroupOperations) (clockMs : Nat) (readError : Option StoreError) :
    GroupOperations × List GroupOperationsEntry :=
  let rows := readOutbox state.outbox.outbox clockMs readError
  ({ state with
     actor := .attempting .retry state.session.groupsAuthoritative rows.1 }, rows.2)

/-- The group that an attempt of the message sends to, if it gets that far. -/
def groupCall (departed : DepartedGroups) (cache : MetadataCache) (message : ClientOutboxMessage)
    (reads : GroupReads) : Option GroupKey :=
  match message.kind with
  | .direct => none
  | .group =>
      match (resolveActiveGroup account reads message.recipient departed cache).1 with
      | .ok (some (key, _)) => some key
      | .ok none | .error _ => none

/-- The operation lock is taken for every row of a group. -/
def lockReady (state : GroupOperations) (message : ClientOutboxMessage) : Bool :=
  message.kind == .direct || state.lock == none

def attempt (state : GroupOperations) (origin : AttemptOrigin) (groupsAuthoritative : Bool)
    (message : ClientOutboxMessage) (later : List ClientOutboxMessage)
    (outcomes : AttemptOutcomes) : GroupOperations × List GroupOperationsEntry :=
  let performed := performAttempt account state.departed state.outbox message outcomes
  match groupCall account state.departed state.outbox.cache message outcomes.reads with
  | some key =>
      ({ state with
         lock := some .actor
         outbox := { state.outbox with cache := performed.state.cache }
         actor := .sending origin groupsAuthoritative message performed key later },
        [.sendStarted .actor key state.session.groups])
  | none =>
      ({ state with
         outbox := performed.state
         actor := .attempting origin groupsAuthoritative later },
        (performed.entries ++ origin.notices message performed).map (.group <| .outbox ·))

def sent (state : GroupOperations) (origin : AttemptOrigin) (groupsAuthoritative : Bool)
    (message : ClientOutboxMessage) (performed : Performed) (key : GroupKey)
    (later : List ClientOutboxMessage) : GroupOperations × List GroupOperationsEntry :=
  ({ state with
     lock := none
     outbox := { state.outbox with outbox := performed.state.outbox }
     actor := .attempting origin groupsAuthoritative later },
    .sendEnded .actor key ::
      (performed.entries ++ origin.notices message performed).map (.group <| .outbox ·))

def attempted (state : GroupOperations) (origin : AttemptOrigin) :
    GroupOperations × List GroupOperationsEntry :=
  ({ state with actor := .idle },
    match origin with
    | .leave command => [.leaveFinished command state.departed]
    | .send _ | .retry => [])

/-! ## Leaves -/

/-- The dispatch loop announces a leave that `handle_command` will not refuse outright. -/
def takeLeave (state : GroupOperations) (command : LeaveCommand) :
    GroupOperations × List GroupOperationsEntry :=
  let groupsAuthoritative := state.session.groupsAuthoritative
  ({ state with
     departed :=
       if groupsAuthoritative then state.departed.beginLeave command.groupKey
       else state.departed
     actor := .leaveTaken command groupsAuthoritative },
    [.leaveTaken command state.departed])

def abandon (state : GroupOperations) (cache : MetadataCache) (command : LeaveCommand)
    (error : String) : GroupOperations × List GroupOperationsEntry :=
  let departed := state.departed.cancelLeave command.groupKey
  ({ state with departed, outbox := { state.outbox with cache }, actor := .idle },
    [.group <| .emitted <| Event.groupRequestError command.requestId command.groupKey error,
      .leaveFinished command departed])

def leaveLookup (state : GroupOperations) (command : LeaveCommand) (reads : GroupReads) :
    GroupOperations × List GroupOperationsEntry :=
  match resolveActiveGroupForLeave account reads command.groupKey state.departed
      state.outbox.cache with
  | (.error error, cache) => state.abandon cache command error
  | (.ok none, cache) =>
      state.abandon cache command
        "Signal group is unavailable or this account is no longer a member"
  | (.ok (some (key, _)), cache) =>
      ({ state with
         lock := some .actor
         outbox := { state.outbox with cache }
         actor := .leaveCalling command key }, [.leaveStarted key])

def leaveReturned (state : GroupOperations) (command : LeaveCommand) (key : GroupKey) :
    Except String LeaveGroupOutcome → GroupOperations × List GroupOperationsEntry
  | .ok outcome =>
      let completed := groupLeaveCompletionEvents state.departed command.requestId
        command.groupKey (.accepted outcome)
      ({ state with departed := completed.1, lock := none, actor := .leaveAccepted command },
        .leaveEnded key true :: completed.2.map (.group <| .emitted ·))
  | .error error =>
      let completed := groupLeaveCompletionEvents state.departed command.requestId
        command.groupKey (.failed ("Could not leave the Signal group: " ++ error))
      ({ state with departed := completed.1, lock := none, actor := .idle },
        .leaveEnded key false :: completed.2.map (.group <| .emitted ·) ++
          [.leaveFinished command completed.1])

/-- After an accepted leave the rows of the group become due and the outbox is retried. -/
def leaveCleanup (state : GroupOperations) (command : LeaveCommand) (expedite : StoreWrite)
    (clockMs : Nat) (readError : Option StoreError) :
    GroupOperations × List GroupOperationsEntry :=
  let expedited := expediteOutbox
    { state.outbox with cache := state.outbox.cache.removeGroupIndex command.groupKey }
    command.groupKey expedite
  let rows := readOutbox expedited.1.outbox clockMs readError
  ({ state with outbox := expedited.1, actor := .attempting (.leave command) true rows.1 },
    expedited.2.map .group ++ rows.2)

/-! ## Uploads -/

def setUpload (state : GroupOperations) (task : Nat) (upload : GroupUpload) : GroupOperations :=
  { state with uploads := state.uploads.insert task upload }

/-- The task is gone; dropping its future drops the lock it may hold. -/
def endUpload (state : GroupOperations) (task : Nat) : GroupOperations :=
  { state with
    uploads := state.uploads.erase task
    lock := if state.lock = some (.upload task) then none else state.lock }

def uploadLookup (state : GroupOperations) (task : Nat) (identifier : String)
    (reads : GroupReads) : GroupOperations :=
  let found := resolveActiveGroup account reads identifier state.departed state.outbox.cache
  let indexed := { state with outbox := { state.outbox with cache := found.2 } }
  match found.1 with
  | .ok (some (key, _)) => indexed.setUpload task (.uploading key)
  | .ok none | .error _ => indexed.endUpload task

/-- `active_group_by_key`, under the lock. -/
def activeGroupByKey (departed : DepartedGroups) (key : GroupKey) (reads : GroupReads) :
    Except StorageError (Option Group) :=
  if departed.contains (account.groupIdentifier key) then .ok none
  else reads.activeGroup key account.localAci

def uploadCheck (state : GroupOperations) (task : Nat) (key : GroupKey) (reads : GroupReads) :
    GroupOperations × List GroupOperationsEntry :=
  match activeGroupByKey account state.departed key reads with
  | .ok (some _) =>
      (state.setUpload task (.sending key),
        [.sendStarted (.upload task) key state.session.groups])
  | .ok none | .error _ => (state.endUpload task, [])

def ended (task : Nat) : GroupUpload → List GroupOperationsEntry
  | .sending key => [.sendEnded (.upload task) key]
  | .started _ | .uploading _ | .locked _ => []

def upload (state : GroupOperations) (task : Nat) (action : UploadAction) :
    GroupUpload → Option (GroupOperations × List GroupOperationsEntry) :=
  fun upload =>
    match action, upload with
    | .lookup reads, .started identifier =>
        some (state.uploadLookup account task identifier reads, [])
    | .lock, .uploading key =>
        if state.lock = none then
          some ({ state.setUpload task (.locked key) with lock := some (.upload task) }, [])
        else none
    | .check reads, .locked key => some (state.uploadCheck account task key reads)
    | .finish, upload => some (state.endUpload task, ended task upload)
    | _, _ => none

/-! ## The machine -/

/-- What the actor's call ends with when its future is dropped. -/
def interrupted : GroupActor → List GroupOperationsEntry
  | .sending _ _ _ _ key _ => [.sendEnded .actor key]
  | .leaveCalling _ key => [.leaveEnded key false]
  | _ => []

def shutdown (state : GroupOperations) : GroupOperations × List GroupOperationsEntry :=
  ({ state with
     actor := .stopped
     lock := if state.lock = some .actor then none else state.lock },
    interrupted state.actor)

def step (state : GroupOperations) (label : GroupOperationsLabel) :
    Option (GroupOperations × List GroupOperationsEntry) :=
  match label, state.actor with
  | .session change, .idle =>
      (change.apply state.session).map fun session => ({ state with session }, [])
  | .send command outcomes, .idle =>
      if state.session.isReady then some (state.takeSend account command outcomes) else none
  | .retry clockMs readError, .idle => some (state.takeRetry clockMs readError)
  | .attempt outcomes, .attempting origin groupsAuthoritative (message :: later) =>
      if origin.attempts groupsAuthoritative message then
        if state.lockReady message then
          some (state.attempt account origin groupsAuthoritative message later outcomes)
        else none
      else
        some ({ state with actor := .attempting origin groupsAuthoritative later }, [])
  | .sent, .sending origin groupsAuthoritative message performed key later =>
      some (state.sent origin groupsAuthoritative message performed key later)
  | .attempted, .attempting origin _ [] => some (state.attempted origin)
  | .leave command, .idle =>
      if state.session.isReady then some (state.takeLeave command) else none
  | .leaveLookup reads, .leaveTaken command groupsAuthoritative =>
      if !groupsAuthoritative then
        some (state.abandon state.outbox.cache command
          ("Signal groups are temporarily unavailable until authoritative synchronization " ++
            "succeeds"))
      else if state.lock = none then some (state.leaveLookup account command reads)
      else none
  | .leaveReturned result, .leaveCalling command key =>
      some (state.leaveReturned command key result)
  | .leaveCleanup expedite clockMs readError, .leaveAccepted command =>
      some (state.leaveCleanup command expedite clockMs readError)
  | .shutdown, _ => some state.shutdown
  | .spawn task identifier, .idle =>
      if state.session.isReady && state.session.groupsAuthoritative &&
          (state.uploads.lookup task).isNone then
        some (state.setUpload task (.started identifier), [])
      else none
  | .upload task action, _ => (state.uploads.lookup task).bind (state.upload account task action)
  | _, _ => none

def machine : Machine GroupOperations GroupOperationsLabel GroupOperationsEntry where
  initial := {}
  step := step account

/-! ## What one step can do -/

inductive Transition (state : GroupOperations) :
    GroupOperationsLabel → GroupOperations → List GroupOperationsEntry → Prop
  | session {change session} (idle : state.actor = .idle)
      (changed : change.apply state.session = some session) :
      Transition state (.session change) { state with session } []
  | send {command outcomes} (idle : state.actor = .idle) :
      Transition state (.send command outcomes) (state.takeSend account command outcomes).1
        (state.takeSend account command outcomes).2
  | retry {clockMs readError} (idle : state.actor = .idle) :
      Transition state (.retry clockMs readError) (state.takeRetry clockMs readError).1
        (state.takeRetry clockMs readError).2
  | skip {outcomes origin groupsAuthoritative message later}
      (actor : state.actor = .attempting origin groupsAuthoritative (message :: later)) :
      Transition state (.attempt outcomes)
        { state with actor := .attempting origin groupsAuthoritative later } []
  | attempt {outcomes origin groupsAuthoritative message later}
      (actor : state.actor = .attempting origin groupsAuthoritative (message :: later))
      (attempts : origin.attempts groupsAuthoritative message = true)
      (ready : state.lockReady message = true) :
      Transition state (.attempt outcomes)
        (state.attempt account origin groupsAuthoritative message later outcomes).1
        (state.attempt account origin groupsAuthoritative message later outcomes).2
  | sent {origin groupsAuthoritative message performed key later}
      (actor : state.actor = .sending origin groupsAuthoritative message performed key later) :
      Transition state .sent
        (state.sent origin groupsAuthoritative message performed key later).1
        (state.sent origin groupsAuthoritative message performed key later).2
  | attempted {origin groupsAuthoritative}
      (actor : state.actor = .attempting origin groupsAuthoritative []) :
      Transition state .attempted (state.attempted origin).1 (state.attempted origin).2
  | leave {command} (idle : state.actor = .idle) :
      Transition state (.leave command) (state.takeLeave command).1 (state.takeLeave command).2
  | refuse {reads command error} (actor : state.actor = .leaveTaken command false) :
      Transition state (.leaveLookup reads)
        (state.abandon state.outbox.cache command error).1
        (state.abandon state.outbox.cache command error).2
  | leaveLookup {reads command} (actor : state.actor = .leaveTaken command true)
      (free : state.lock = none) :
      Transition state (.leaveLookup reads) (state.leaveLookup account command reads).1
        (state.leaveLookup account command reads).2
  | leaveReturned {command key result} (actor : state.actor = .leaveCalling command key) :
      Transition state (.leaveReturned result) (state.leaveReturned command key result).1
        (state.leaveReturned command key result).2
  | leaveCleanup {command expedite clockMs readError}
      (actor : state.actor = .leaveAccepted command) :
      Transition state (.leaveCleanup expedite clockMs readError)
        (state.leaveCleanup command expedite clockMs readError).1
        (state.leaveCleanup command expedite clockMs readError).2
  | shutdown : Transition state .shutdown state.shutdown.1 state.shutdown.2
  | spawn {task identifier} (idle : state.actor = .idle)
      (authority : state.session.groupsAuthoritative = true)
      (unused : state.uploads.lookup task = none) :
      Transition state (.spawn task identifier) (state.setUpload task (.started identifier)) []
  | uploadLookup {task reads identifier}
      (upload : state.uploads.lookup task = some (.started identifier)) :
      Transition state (.upload task (.lookup reads))
        (state.uploadLookup account task identifier reads) []
  | uploadLock {task key} (upload : state.uploads.lookup task = some (.uploading key))
      (free : state.lock = none) :
      Transition state (.upload task .lock)
        { state.setUpload task (.locked key) with lock := some (.upload task) } []
  | uploadCheck {task reads key} (upload : state.uploads.lookup task = some (.locked key)) :
      Transition state (.upload task (.check reads))
        (state.uploadCheck account task key reads).1 (state.uploadCheck account task key reads).2
  | uploadEnd {task upload} (isUpload : state.uploads.lookup task = some upload) :
      Transition state (.upload task .finish) (state.endUpload task) (ended task upload)

variable {account}

theorem transition_of_upload {state next : GroupOperations} {task : Nat} {action : UploadAction}
    {entries : List GroupOperationsEntry} {current : GroupUpload}
    (isUpload : state.uploads.lookup task = some current)
    (stepped : state.upload account task action current = some (next, entries)) :
    Transition account state (.upload task action) next entries := by
  cases action with
  | lookup reads =>
      cases current <;> cases stepped
      exact .uploadLookup isUpload
  | lock =>
      cases current with
      | uploading key =>
          rcases Option.ite_none_right_eq_some.mp stepped with ⟨free, same⟩
          cases same
          exact .uploadLock isUpload free
      | started | locked | sending => cases stepped
  | check reads =>
      cases current with
      | locked key =>
          rcases Machine.reached_of_some stepped with ⟨rfl, rfl⟩
          exact .uploadCheck isUpload
      | started | uploading | sending => cases stepped
  | finish =>
      cases current <;> cases stepped <;> exact .uploadEnd isUpload

theorem transition_of_step {state next : GroupOperations} {label : GroupOperationsLabel}
    {entries : List GroupOperationsEntry}
    (stepped : state.step account label = some (next, entries)) :
    Transition account state label next entries := by
  unfold step at stepped
  cases label with
  | shutdown =>
      cases stepped
      exact .shutdown
  | upload task action =>
      rcases Option.bind_eq_some_iff.mp stepped with ⟨current, isUpload, acted⟩
      exact transition_of_upload isUpload acted
  | session change =>
      cases actor : state.actor <;> rw [actor] at stepped
      case idle =>
        rcases Option.map_eq_some_iff.mp stepped with ⟨session, changed, same⟩
        cases same
        rw [← actor]
        exact .session actor changed
      all_goals cases stepped
  | send command outcomes =>
      cases actor : state.actor <;> rw [actor] at stepped
      case idle =>
        rcases Option.ite_none_right_eq_some.mp stepped with ⟨-, same⟩
        rcases Machine.reached_of_some same with ⟨rfl, rfl⟩
        exact .send actor
      all_goals cases stepped
  | retry clockMs readError =>
      cases actor : state.actor <;> rw [actor] at stepped
      case idle =>
        cases stepped
        exact .retry actor
      all_goals cases stepped
  | attempt outcomes =>
      cases actor : state.actor <;> rw [actor] at stepped
      case attempting origin groupsAuthoritative messages =>
        cases messages with
        | nil => cases stepped
        | cons message later =>
            by_cases attempts : origin.attempts groupsAuthoritative message = true
            · simp only [attempts, if_true] at stepped
              rcases Option.ite_none_right_eq_some.mp stepped with ⟨ready, same⟩
              rcases Machine.reached_of_some same with ⟨rfl, rfl⟩
              exact .attempt actor attempts ready
            · simp only [attempts] at stepped
              cases stepped
              exact .skip actor
      all_goals cases stepped
  | sent =>
      cases actor : state.actor <;> rw [actor] at stepped
      case sending =>
        cases stepped
        exact .sent actor
      all_goals cases stepped
  | attempted =>
      cases actor : state.actor <;> rw [actor] at stepped
      case attempting origin groupsAuthoritative messages =>
        cases messages with
        | nil =>
            cases stepped
            exact .attempted actor
        | cons message later => cases stepped
      all_goals cases stepped
  | leave command =>
      cases actor : state.actor <;> rw [actor] at stepped
      case idle =>
        rcases Option.ite_none_right_eq_some.mp stepped with ⟨-, same⟩
        cases same
        exact .leave actor
      all_goals cases stepped
  | leaveLookup reads =>
      cases actor : state.actor <;> rw [actor] at stepped
      case leaveTaken command groupsAuthoritative =>
        cases groupsAuthoritative with
        | false =>
            cases stepped
            exact .refuse actor
        | true =>
            simp only [Bool.not_true, Bool.false_eq_true, if_false] at stepped
            rcases Option.ite_none_right_eq_some.mp stepped with ⟨free, same⟩
            rcases Machine.reached_of_some same with ⟨rfl, rfl⟩
            exact .leaveLookup actor free
      all_goals cases stepped
  | leaveReturned result =>
      cases actor : state.actor <;> rw [actor] at stepped
      case leaveCalling command key =>
        rcases Machine.reached_of_some stepped with ⟨rfl, rfl⟩
        exact .leaveReturned actor
      all_goals cases stepped
  | leaveCleanup expedite clockMs readError =>
      cases actor : state.actor <;> rw [actor] at stepped
      case leaveAccepted command =>
        cases stepped
        exact .leaveCleanup actor
      all_goals cases stepped
  | spawn task identifier =>
      cases actor : state.actor <;> rw [actor] at stepped
      case idle =>
        rcases Option.ite_none_right_eq_some.mp stepped with ⟨allowed, same⟩
        cases same
        simp only [Bool.and_eq_true, Option.isNone_iff_eq_none] at allowed
        exact .spawn actor allowed.1.2 allowed.2
      all_goals cases stepped

/-! ## What the parts of a step do -/

section Parts

variable {state : GroupOperations}

/-- A send command ends at once, or it has stored its message and goes on to attempt it. A
group's message is only stored while the groups are known. -/
theorem takeSend_cases (state : GroupOperations) (command : SendCommand)
    (outcomes : SendOutcomes) :
    ∃ outbox, (state.outbox.cache.Sound account → outbox.cache.Sound account) ∧
      ((∃ shown : List OutboxEntry, state.takeSend account command outcomes =
          ({ state with outbox }, shown.map (.group <| .outbox ·))) ∨
        ∃ message, (message.kind = .group → state.session.groupsAuthoritative = true) ∧
          state.takeSend account command outcomes =
            ({ state with
               outbox
               actor := .attempting (.send command) state.session.groupsAuthoritative
                 [message] }, [])) := by
  simp only [takeSend]
  split
  next rejected =>
    exact ⟨_, (handleSend_of_rejected rejected).2.2, Or.inl ⟨_, rfl⟩⟩
  next middle accepted =>
    have sound := (acceptedSend_eq_some accepted).2
    split
    · exact ⟨middle, sound, Or.inl ⟨[_], rfl⟩⟩
    · refine ⟨_, ?_, Or.inr ⟨_, ?_, rfl⟩⟩
      · exact sound
      · intro group
        cases command with
        | sendMessage requestId recipient message => cases group
        | sendGroupMessage requestId groupKey message =>
            cases authority : state.session.groupsAuthoritative with
            | true => rfl
            | false => simp [acceptedSend, authority] at accepted

theorem readOutbox_entries {outbox : Outbox} {clockMs : Nat} {readError : Option StoreError}
    {entry : GroupOperationsEntry} (member : entry ∈ (readOutbox outbox clockMs readError).2) :
    ∃ text, entry = .group (.outbox (.emitted (Event.error text false))) := by
  cases readError with
  | none => cases member
  | some error =>
      rcases List.mem_map.mp member with ⟨event, isEvent, rfl⟩
      unfold StoreError.events at isEvent
      split at isEvent
      · cases isEvent
      · exact ⟨_, by rw [List.mem_singleton.mp isEvent]⟩

theorem expediteOutbox_spec (outbox : OutboxState) (groupKey : String) (write : StoreWrite) :
    (expediteOutbox outbox groupKey write).1.cache = outbox.cache ∧
      ∀ entry ∈ (expediteOutbox outbox groupKey write).2,
        ∃ text, entry = .emitted (Event.error text false) := by
  cases write with
  | stored => exact ⟨rfl, by simp [expediteOutbox]⟩
  | failed error =>
      refine ⟨rfl, ?_⟩
      intro entry member
      exact ⟨_, List.mem_singleton.mp member⟩

end Parts

end GroupOperations

end SignalPurple
