import SignalPurple.Core.GroupOperations
import SignalPurple.Core.Outbox.Attempt
import SignalPurple.Foundation.History
import SignalPurple.Foundation.Mutex

/-! # No send after a leave

Membership is checked, and a group is marked as departed, only while the operation lock is
held. So whoever starts a group send sees every leave that was accepted before.
-/

namespace SignalPurple

/-- The actor is between the check of a membership and the end of the call. -/
def GroupActor.locks : GroupActor → Bool
  | .sending .. | .leaveCalling .. => true
  | .idle | .attempting .. | .leaveTaken .. | .leaveAccepted _ | .stopped => false

def GroupUpload.locks : GroupUpload → Bool
  | .locked _ | .sending _ => true
  | .started _ | .uploading _ => false

/-- Entries that neither start a group send nor report an accepted leave. -/
def GroupOperationsEntry.Quiet : GroupOperationsEntry → Prop
  | .sendStarted .. | .leaveEnded _ true => False
  | .sendEnded .. | .leaveStarted _ | .leaveEnded _ false | .leaveTaken .. | .leaveFinished ..
  | .group _ => True

namespace GroupOperations

variable {account : Account}

def Inside (state : GroupOperations) : GroupUser → Prop
  | .actor => state.actor.locks = true
  | .upload task => ∃ upload, state.uploads.lookup task = some upload ∧ upload.locks = true

def Sending (state : GroupOperations) (key : GroupKey) : GroupUser → Prop
  | .actor => ∃ origin groupsAuthoritative message performed later,
      state.actor = .sending origin groupsAuthoritative message performed key later
  | .upload task => state.uploads.lookup task = some (.sending key)

theorem inside_of_sending {state : GroupOperations} {key : GroupKey} {user : GroupUser}
    (sending : state.Sending key user) : state.Inside user := by
  cases user with
  | actor =>
      rcases sending with ⟨origin, groupsAuthoritative, message, performed, later, actor⟩
      simp [Inside, actor, GroupActor.locks]
  | upload task => exact ⟨.sending key, sending, rfl⟩

/-! ## Checks under the lock -/

theorem notMem_departed_of_contains {departed : DepartedGroups} {identifier : String}
    (active : departed.contains identifier = false) : identifier ∉ departed.departed := by
  have state : departed.departureState identifier = .active := by
    simpa [DepartedGroups.contains] using active
  exact (DepartedGroups.departureState_eq_active.mp state).1

theorem groupCall_eq_some {departed : DepartedGroups} {cache : MetadataCache}
    {message : ClientOutboxMessage} {reads : GroupReads} {key : GroupKey}
    (sound : cache.Sound account)
    (called : groupCall account departed cache message reads = some key) :
    message.kind = .group ∧ account.groupIdentifier key ∉ departed.departed := by
  have looked : LookupSound account message.recipient
      (resolveActiveGroup account reads message.recipient departed cache) :=
    lookupSound_resolveActiveGroup sound message.recipient departed
  unfold groupCall at called
  split at called
  next => cases called
  next group =>
    refine ⟨group, ?_⟩
    split at called
    next found record resolved =>
      cases called
      rw [looked.2 _ record resolved]
      apply notMem_departed_of_contains
      cases left : departed.contains message.recipient with
      | false => rfl
      | true => simp [resolveActiveGroup, left] at resolved
    next => cases called
    next => cases called

theorem activeGroupByKey_eq_some {departed : DepartedGroups} {key : GroupKey}
    {reads : GroupReads} {group : Group}
    (active : activeGroupByKey account departed key reads = .ok (some group)) :
    account.groupIdentifier key ∉ departed.departed := by
  apply notMem_departed_of_contains
  cases left : departed.contains (account.groupIdentifier key) with
  | false => rfl
  | true => simp [activeGroupByKey, left] at active

/-! ## The invariant -/

/-- A send to a group is not called after a leave of the group was accepted. -/
def NotLeft (before : List GroupOperationsEntry) : GroupOperationsEntry → Prop
  | .sendStarted _ key _ => .leaveEnded key true ∉ before
  | _ => True

structure Exclusive (account : Account) (state : GroupOperations)
    (history : List GroupOperationsEntry) : Prop where
  guards : Guards state.lock state.Inside
  indexed : state.outbox.cache.Sound account
  departed : ∀ key, .leaveEnded key true ∈ history →
    account.groupIdentifier key ∈ state.departed.departed
  calling : ∀ command key, state.actor = .leaveCalling command key →
    account.groupIdentifier key = command.groupKey
  ordered : History.Justified NotLeft history

section Invariant

variable {state next : GroupOperations} {history entries : List GroupOperationsEntry}

theorem exclusive_initial (account : Account) : Exclusive account {} [] where
  guards := by
    intro user
    cases user <;> simp [Inside, GroupActor.locks]
  indexed := MetadataCache.sound_empty account
  departed := by simp
  calling := by simp
  ordered := History.justified_nil _

theorem ordered_of_noSend (ordered : History.Justified NotLeft history)
    (noSend : ∀ user key groups, .sendStarted user key groups ∉ entries) :
    History.Justified NotLeft (history ++ entries) := by
  rw [History.justified_append]
  refine ⟨ordered, ?_⟩
  rintro before entry after rfl
  cases entry with
  | sendStarted user key groups => exact absurd (by simp) (noSend user key groups)
  | _ => trivial

theorem departed_of_quiet (quiet : ∀ entry ∈ entries, entry.Quiet) {key : GroupKey}
    (left : .leaveEnded key true ∈ history ++ entries) : .leaveEnded key true ∈ history := by
  rcases List.mem_append.mp left with earlier | new
  · exact earlier
  · exact (quiet _ new).elim

theorem Exclusive.quiet (holds : Exclusive account state history)
    (guards : Guards next.lock next.Inside) (sound : next.outbox.cache.Sound account)
    (departed : state.departed.departed ⊆ next.departed.departed)
    (calling : ∀ command key, next.actor = .leaveCalling command key →
      account.groupIdentifier key = command.groupKey)
    (quiet : ∀ entry ∈ entries, entry.Quiet) : Exclusive account next (history ++ entries) where
  guards := guards
  indexed := sound
  departed := fun key left => departed (holds.departed key (departed_of_quiet quiet left))
  calling := calling
  ordered := ordered_of_noSend holds.ordered fun _ _ _ started => quiet _ started

theorem Exclusive.besideActor (holds : Exclusive account state history)
    (actor : next.actor = state.actor) (departed : next.departed = state.departed)
    (guards : Guards next.lock next.Inside) (sound : next.outbox.cache.Sound account)
    (quiet : ∀ entry ∈ entries, entry.Quiet) : Exclusive account next (history ++ entries) := by
  apply holds.quiet guards sound
  · rw [departed]
  · rw [actor]
    exact holds.calling
  · exact quiet

theorem Exclusive.sendStarted (holds : Exclusive account state history) {user : GroupUser}
    {key : GroupKey} (guards : Guards next.lock next.Inside)
    (sound : next.outbox.cache.Sound account) (departed : next.departed = state.departed)
    (calling : ∀ command key, next.actor = .leaveCalling command key →
      account.groupIdentifier key = command.groupKey)
    (member : account.groupIdentifier key ∉ state.departed.departed)
    (groups : GroupSnapshotState) :
    Exclusive account next (history ++ [.sendStarted user key groups]) where
  guards := guards
  indexed := sound
  departed := by
    intro other left
    rw [departed]
    exact holds.departed other (by simpa using left)
  calling := calling
  ordered := by
    rw [History.justified_append, History.justified_singleton]
    refine ⟨holds.ordered, ?_⟩
    rw [List.append_nil]
    exact fun left => member (holds.departed key left)

/-! ## The lock -/

theorem guards_of_same (guards : Guards state.lock state.Inside) (lock : next.lock = state.lock)
    (actor : next.actor.locks = state.actor.locks) (uploads : next.uploads = state.uploads) :
    Guards next.lock next.Inside := by
  rw [lock]
  apply guards.keep
  intro user
  cases user <;> simp [Inside, actor, uploads]

theorem guards_of_actorEnters (guards : Guards state.lock state.Inside) (free : state.lock = none)
    (lock : next.lock = some .actor) (actor : next.actor.locks = true)
    (uploads : next.uploads = state.uploads) : Guards next.lock next.Inside := by
  rw [lock]
  apply guards.enter free actor
  intro other isOther
  cases other with
  | actor => exact absurd rfl isOther
  | upload task => simp [Inside, uploads]

theorem guards_of_actorLeaves (guards : Guards state.lock state.Inside)
    (inside : state.actor.locks = true) (lock : next.lock = none)
    (actor : next.actor.locks = false) (uploads : next.uploads = state.uploads) :
    Guards next.lock next.Inside := by
  rw [lock]
  apply guards.leave ((guards .actor).mp inside) (by simp [Inside, actor])
  intro other isOther
  cases other with
  | actor => exact absurd rfl isOther
  | upload task => simp [Inside, uploads]

theorem inside_setUpload_of_ne {task : Nat} {upload : GroupUpload} {user : GroupUser}
    (other : user ≠ .upload task) :
    (state.setUpload task upload).Inside user ↔ state.Inside user := by
  cases user with
  | actor => rfl
  | upload otherTask =>
      have apart : otherTask ≠ task := fun same => other (by rw [same])
      simp [Inside, setUpload, AList.lookup_insert_ne apart]

theorem inside_setUpload_self {task : Nat} {upload : GroupUpload} :
    (state.setUpload task upload).Inside (.upload task) ↔ upload.locks = true := by
  simp [Inside, setUpload]

theorem guards_setUpload (guards : Guards state.lock state.Inside) {task : Nat}
    {upload : GroupUpload} (same : state.Inside (.upload task) ↔ upload.locks = true) :
    Guards (state.setUpload task upload).lock (state.setUpload task upload).Inside := by
  apply guards.keep
  intro user
  by_cases isTask : user = .upload task
  · rw [isTask, inside_setUpload_self, same]
  · exact inside_setUpload_of_ne isTask

theorem guards_endUpload (guards : Guards state.lock state.Inside) (task : Nat) :
    Guards (state.endUpload task).lock (state.endUpload task).Inside := by
  have gone : ¬ (state.endUpload task).Inside (.upload task) := by simp [Inside, endUpload]
  have others : ∀ other, other ≠ .upload task →
      ((state.endUpload task).Inside other ↔ state.Inside other) := by
    intro other isOther
    cases other with
    | actor => rfl
    | upload otherTask =>
        have apart : otherTask ≠ task := fun same => isOther (by rw [same])
        simp [Inside, endUpload, AList.lookup_erase_ne apart]
  by_cases holds : state.lock = some (.upload task)
  · have free : (state.endUpload task).lock = none := by simp [endUpload, holds]
    rw [free]
    exact guards.leave holds gone others
  · have kept : (state.endUpload task).lock = state.lock := by simp [endUpload, holds]
    rw [kept]
    apply guards.keep
    intro user
    by_cases isTask : user = .upload task
    · rw [isTask]
      exact iff_of_false gone fun inside => holds ((guards _).mp inside)
    · exact others user isTask

/-! ## One step -/

theorem quiet_of_group {shown : List OutboxEntry} {entry : GroupOperationsEntry}
    (member : entry ∈ shown.map (.group <| .outbox ·)) : entry.Quiet := by
  rcases List.mem_map.mp member with ⟨inner, -, rfl⟩
  trivial

theorem Exclusive.attempt (holds : Exclusive account state history) {origin : AttemptOrigin}
    {groupsAuthoritative : Bool} {message : ClientOutboxMessage}
    {later : List ClientOutboxMessage} (outcomes : AttemptOutcomes)
    (idle : state.actor.locks = false) (ready : state.lockReady message = true) :
    Exclusive account
      (state.attempt account origin groupsAuthoritative message later outcomes).1
      (history ++ (state.attempt account origin groupsAuthoritative message later outcomes).2) := by
  have sound : (performAttempt account state.departed state.outbox message
      outcomes).state.cache.Sound account :=
    (attemptSpec_attemptOutboxMessage holds.indexed message outcomes).indexed
  simp only [GroupOperations.attempt]
  split
  next key called =>
    rcases groupCall_eq_some holds.indexed called with ⟨group, member⟩
    have free : state.lock = none := by simpa [lockReady, group] using ready
    apply holds.sendStarted
    · exact guards_of_actorEnters holds.guards free rfl rfl rfl
    · exact sound
    · rfl
    · simp
    · exact member
  next =>
    apply holds.quiet
    · exact guards_of_same holds.guards rfl idle.symm rfl
    · exact sound
    · exact Finset.Subset.refl _
    · simp
    · exact fun entry => quiet_of_group

theorem Exclusive.abandon (holds : Exclusive account state history) {cache : MetadataCache}
    (sound : cache.Sound account) (command : LeaveCommand) (error : String)
    (idle : state.actor.locks = false) :
    Exclusive account (state.abandon cache command error).1
      (history ++ (state.abandon cache command error).2) := by
  apply holds.quiet
  · exact guards_of_same holds.guards rfl idle.symm rfl
  · exact sound
  · exact Finset.Subset.refl _
  · simp [GroupOperations.abandon]
  · simp [GroupOperations.abandon, GroupOperationsEntry.Quiet]

theorem Exclusive.leaveLookup (holds : Exclusive account state history) (command : LeaveCommand)
    (reads : GroupReads) (idle : state.actor.locks = false) (free : state.lock = none) :
    Exclusive account (state.leaveLookup account command reads).1
      (history ++ (state.leaveLookup account command reads).2) := by
  have looked : LookupSound account command.groupKey
      (resolveActiveGroupForLeave account reads command.groupKey state.departed
        state.outbox.cache) :=
    lookupSound_resolveActiveGroupForLeave holds.indexed _ _
  unfold GroupOperations.leaveLookup
  split
  next lookup =>
    rw [lookup] at looked
    exact holds.abandon looked.1 _ _ idle
  next lookup =>
    rw [lookup] at looked
    exact holds.abandon looked.1 _ _ idle
  next key group cache lookup =>
    rw [lookup] at looked
    apply holds.quiet
    · exact guards_of_actorEnters holds.guards free rfl rfl rfl
    · exact looked.1
    · exact Finset.Subset.refl _
    · intro other found isCalling
      cases isCalling
      exact looked.2 key group rfl
    · simp [GroupOperationsEntry.Quiet]

theorem Exclusive.leaveReturned (holds : Exclusive account state history)
    {command : LeaveCommand} {key : GroupKey} (actor : state.actor = .leaveCalling command key)
    (result : Except String LeaveGroupOutcome) :
    Exclusive account (state.leaveReturned command key result).1
      (history ++ (state.leaveReturned command key result).2) := by
  have inside : state.actor.locks = true := by simp [actor, GroupActor.locks]
  have identifier := holds.calling command key actor
  cases result with
  | ok outcome =>
      constructor
      · exact guards_of_actorLeaves holds.guards inside rfl rfl rfl
      · exact holds.indexed
      · intro other left
        change _ ∈ insert command.groupKey state.departed.departed
        rw [Finset.mem_insert]
        rcases List.mem_append.mp left with earlier | new
        · exact Or.inr (holds.departed other earlier)
        · have same : other = key := by simpa [GroupOperations.leaveReturned] using new
          exact Or.inl (same ▸ identifier)
      · simp [GroupOperations.leaveReturned]
      · apply ordered_of_noSend holds.ordered
        simp [GroupOperations.leaveReturned]
  | error error =>
      apply holds.quiet
      · exact guards_of_actorLeaves holds.guards inside rfl rfl rfl
      · exact holds.indexed
      · exact Finset.Subset.refl _
      · simp [GroupOperations.leaveReturned]
      · simp [GroupOperations.leaveReturned, groupLeaveCompletionEvents,
          GroupOperationsEntry.Quiet]

theorem Exclusive.leaveCleanup (holds : Exclusive account state history)
    {command : LeaveCommand} (idle : state.actor.locks = false) (expedite : StoreWrite)
    (clockMs : Nat) (readError : Option StoreError) :
    Exclusive account (state.leaveCleanup command expedite clockMs readError).1
      (history ++ (state.leaveCleanup command expedite clockMs readError).2) := by
  have expedited := expediteOutbox_spec
    { state.outbox with cache := state.outbox.cache.removeGroupIndex command.groupKey }
    command.groupKey expedite
  apply holds.quiet
  · exact guards_of_same holds.guards rfl idle.symm rfl
  · simp only [GroupOperations.leaveCleanup, expedited.1]
    exact holds.indexed.removeGroupIndex _
  · exact Finset.Subset.refl _
  · simp [GroupOperations.leaveCleanup]
  · intro entry member
    rcases List.mem_append.mp member with cleaned | read
    · rcases List.mem_map.mp cleaned with ⟨inner, -, rfl⟩
      trivial
    · rcases readOutbox_entries read with ⟨text, rfl⟩
      trivial

theorem Exclusive.shutdown (holds : Exclusive account state history) :
    Exclusive account state.shutdown.1 (history ++ state.shutdown.2) := by
  apply holds.quiet
  · cases inside : state.actor.locks with
    | false =>
        have kept : state.lock ≠ some .actor := by
          intro holder
          have isInside := (holds.guards .actor).mpr holder
          simp [Inside, inside] at isInside
        exact guards_of_same holds.guards (if_neg kept) inside.symm rfl
    | true =>
        have holder := (holds.guards .actor).mp inside
        exact guards_of_actorLeaves holds.guards inside (if_pos holder) rfl rfl
  · exact holds.indexed
  · exact Finset.Subset.refl _
  · simp [GroupOperations.shutdown]
  · intro entry member
    change entry ∈ interrupted state.actor at member
    unfold interrupted at member
    split at member
    · cases List.mem_singleton.mp member
      trivial
    · cases List.mem_singleton.mp member
      trivial
    · cases member

theorem Exclusive.uploadLookup (holds : Exclusive account state history) {task : Nat}
    {identifier : String} (upload : state.uploads.lookup task = some (.started identifier))
    (reads : GroupReads) :
    Exclusive account (state.uploadLookup account task identifier reads)
      (history ++ []) := by
  have looked : LookupSound account identifier
      (resolveActiveGroup account reads identifier state.departed state.outbox.cache) :=
    lookupSound_resolveActiveGroup holds.indexed _ _
  have outside : ¬ state.Inside (.upload task) := by simp [Inside, upload, GroupUpload.locks]
  simp only [GroupOperations.uploadLookup]
  split
  · refine holds.besideActor rfl rfl ?_ ?_ ?_
    · exact guards_setUpload holds.guards (iff_of_false outside (by simp [GroupUpload.locks]))
    · exact looked.1
    · simp
  all_goals
    refine holds.besideActor rfl rfl ?_ ?_ ?_
    · exact guards_endUpload holds.guards task
    · exact looked.1
    · simp

theorem Exclusive.uploadCheck (holds : Exclusive account state history) {task : Nat}
    {key : GroupKey} (upload : state.uploads.lookup task = some (.locked key))
    (reads : GroupReads) :
    Exclusive account (state.uploadCheck account task key reads).1
      (history ++ (state.uploadCheck account task key reads).2) := by
  have inside : state.Inside (.upload task) := ⟨.locked key, upload, rfl⟩
  unfold GroupOperations.uploadCheck
  split
  next group active =>
    apply holds.sendStarted
    · exact guards_setUpload holds.guards (iff_of_true inside rfl)
    · exact holds.indexed
    · rfl
    · exact holds.calling
    · exact activeGroupByKey_eq_some active
  all_goals
    refine holds.besideActor rfl rfl ?_ ?_ ?_
    · exact guards_endUpload holds.guards task
    · exact holds.indexed
    · simp

theorem Exclusive.step {label : GroupOperationsLabel} (holds : Exclusive account state history)
    (stepped : state.step account label = some (next, entries)) :
    Exclusive account next (history ++ entries) := by
  cases transition_of_step stepped with
  | session idle changed =>
      refine holds.besideActor rfl rfl ?_ ?_ ?_
      · exact guards_of_same holds.guards rfl rfl rfl
      · exact holds.indexed
      · simp
  | @send command outcomes idle =>
      rcases takeSend_cases state command outcomes with ⟨outbox, sound, ended | attempting⟩
      · rcases ended with ⟨shown, taken⟩
        rw [taken]
        refine holds.besideActor rfl rfl ?_ ?_ ?_
        · exact guards_of_same holds.guards rfl rfl rfl
        · exact sound holds.indexed
        · exact fun entry => quiet_of_group
      · rcases attempting with ⟨message, -, taken⟩
        rw [taken]
        apply holds.quiet
        · exact guards_of_same holds.guards rfl (by simp [idle, GroupActor.locks]) rfl
        · exact sound holds.indexed
        · exact Finset.Subset.refl _
        · simp
        · simp
  | retry idle =>
      apply holds.quiet
      · exact guards_of_same holds.guards rfl (by simp [takeRetry, idle, GroupActor.locks]) rfl
      · exact holds.indexed
      · exact Finset.Subset.refl _
      · simp [takeRetry]
      · intro entry read
        rcases readOutbox_entries read with ⟨text, rfl⟩
        trivial
  | skip actor =>
      apply holds.quiet
      · exact guards_of_same holds.guards rfl (by simp [actor, GroupActor.locks]) rfl
      · exact holds.indexed
      · exact Finset.Subset.refl _
      · simp
      · simp
  | attempt actor attempts ready =>
      exact holds.attempt _ (by simp [actor, GroupActor.locks]) ready
  | sent actor =>
      apply holds.quiet
      · exact guards_of_actorLeaves holds.guards (by simp [actor, GroupActor.locks]) rfl rfl rfl
      · exact holds.indexed
      · exact Finset.Subset.refl _
      · simp [sent]
      · intro entry member
        rcases List.mem_cons.mp member with rfl | shown
        · trivial
        · exact quiet_of_group shown
  | @attempted origin groupsAuthoritative actor =>
      apply holds.quiet
      · exact guards_of_same holds.guards rfl (by simp [attempted, actor, GroupActor.locks]) rfl
      · exact holds.indexed
      · exact Finset.Subset.refl _
      · simp [attempted]
      · cases origin <;> simp [attempted, GroupOperationsEntry.Quiet]
  | leave idle =>
      apply holds.quiet
      · exact guards_of_same holds.guards rfl (by simp [takeLeave, idle, GroupActor.locks]) rfl
      · exact holds.indexed
      · simp only [takeLeave]
        split <;> exact Finset.Subset.refl _
      · simp [takeLeave]
      · simp [takeLeave, GroupOperationsEntry.Quiet]
  | refuse actor =>
      exact holds.abandon holds.indexed _ _ (by simp [actor, GroupActor.locks])
  | leaveLookup actor free =>
      exact holds.leaveLookup _ _ (by simp [actor, GroupActor.locks]) free
  | leaveReturned actor => exact holds.leaveReturned actor _
  | leaveCleanup actor =>
      exact holds.leaveCleanup (by simp [actor, GroupActor.locks]) _ _ _
  | shutdown => exact holds.shutdown
  | @spawn task identifier idle authority unused =>
      have outside : ¬ state.Inside (.upload task) := by simp [Inside, unused]
      refine holds.besideActor rfl rfl ?_ ?_ ?_
      · exact guards_setUpload holds.guards (iff_of_false outside (by simp [GroupUpload.locks]))
      · exact holds.indexed
      · simp
  | uploadLookup upload => exact holds.uploadLookup upload _
  | @uploadLock task key upload free =>
      refine holds.besideActor rfl rfl ?_ ?_ ?_
      · have others : ∀ other, other ≠ .upload task →
            ((state.setUpload task (.locked key)).Inside other ↔ state.Inside other) :=
          fun other isOther => inside_setUpload_of_ne isOther
        have entered : (state.setUpload task (.locked key)).Inside (.upload task) :=
          inside_setUpload_self.mpr rfl
        exact holds.guards.enter free entered others
      · exact holds.indexed
      · simp
  | uploadCheck upload => exact holds.uploadCheck upload _
  | @uploadEnd task upload isUpload =>
      refine holds.besideActor rfl rfl ?_ ?_ ?_
      · exact guards_endUpload holds.guards task
      · exact holds.indexed
      · cases upload <;> simp [ended, GroupOperationsEntry.Quiet]

theorem exclusive_of_run {labels : List GroupOperationsLabel}
    (runs : (machine account).run labels = some (state, history)) :
    Exclusive account state history := by
  apply Machine.run_invariant (machine account) (exclusive_initial account) _ runs
  exact fun state earlier label next entries holds stepped => holds.step stepped

end Invariant

end GroupOperations

end SignalPurple
