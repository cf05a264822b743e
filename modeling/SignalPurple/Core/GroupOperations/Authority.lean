import SignalPurple.Core.GroupOperations.Exclusion
import SignalPurple.Core.GroupSession

/-! # Group sends and what is known about the groups

The actor asks for the authority of the group snapshot when it takes a command, and keeps
it until the command has ended, since nobody else changes the session. An upload was
admitted under the same authority, but it sends when it is done, and the session may have
lost the authority meanwhile.
-/

namespace SignalPurple

namespace GroupOperations

variable {account : Account} {state next : GroupOperations}
  {history entries : List GroupOperationsEntry}

def Revokes : GroupOperationsLabel → Prop
  | .session (.refreshed (.error _)) | .session (.groupSynced (.error _))
  | .session (.recover _) => True
  | _ => False

/-- Authority is only taken back while no group attachment is on its way. -/
def RevokesBetweenUploads (state : GroupOperations) (label : GroupOperationsLabel) : Prop :=
  Revokes label → ∀ task, state.uploads.lookup task = none

/-- What the messages of a call may rely on. -/
def Covered (groupsAuthoritative : Bool) (origin : AttemptOrigin)
    (messages : List ClientOutboxMessage) : Prop :=
  ∀ command, origin = .send command → ∀ message ∈ messages, message.kind = .group →
    groupsAuthoritative = true

theorem covered_of_noSend {groupsAuthoritative : Bool} {origin : AttemptOrigin}
    {messages : List ClientOutboxMessage} (noSend : ∀ command, origin ≠ .send command) :
    Covered groupsAuthoritative origin messages :=
  fun command isSend => absurd isSend (noSend command)

/-- The authority the actor relies on is that of the session. -/
def Relies (session : SessionState) : GroupActor → Prop
  | .attempting origin groupsAuthoritative messages
  | .sending origin groupsAuthoritative _ _ _ messages =>
      groupsAuthoritative = session.groupsAuthoritative ∧
        Covered groupsAuthoritative origin messages
  | .leaveTaken _ groupsAuthoritative => groupsAuthoritative = session.groupsAuthoritative
  | .leaveCalling .. | .leaveAccepted _ => session.groupsAuthoritative = true
  | .idle | .stopped => True

/-- No call of `send_message_to_group` while the groups are not known. -/
def NeverPending (history : List GroupOperationsEntry) : Prop :=
  ∀ user key, .sendStarted user key .pending ∉ history

structure Gated (state : GroupOperations) (history : List GroupOperationsEntry) : Prop where
  uploads : ∀ task upload, state.uploads.lookup task = some upload →
    state.session.groupsAuthoritative = true
  actor : Relies state.session state.actor
  known : NeverPending history

theorem gated_initial : Gated {} [] where
  uploads := by simp
  actor := trivial
  known := by simp [NeverPending]

theorem NeverPending.append (known : NeverPending history)
    (noSend : ∀ user key groups, .sendStarted user key groups ∉ entries) :
    NeverPending (history ++ entries) := by
  intro user key started
  rcases List.mem_append.mp started with earlier | new
  · exact known user key earlier
  · exact noSend user key .pending new

theorem NeverPending.start (known : NeverPending history) {session : SessionState}
    (authority : session.groupsAuthoritative = true) (user : GroupUser) (key : GroupKey) :
    NeverPending (history ++ [.sendStarted user key session.groups]) := by
  intro other otherKey started
  rcases List.mem_append.mp started with earlier | new
  · exact known other otherKey earlier
  · have pending : GroupSnapshotState.pending = session.groups := by
      have same := List.mem_singleton.mp new
      injection same
    simp [SessionState.groupsAuthoritative, ← pending] at authority

theorem groupsAuthoritative_of_apply {session changed : SessionState} {change : SessionChange}
    (applied : change.apply session = some changed) (kept : ¬ Revokes (.session change))
    (authority : session.groupsAuthoritative = true) :
    changed.groupsAuthoritative = true := by
  cases change with
  | ready =>
      cases applied
      exact authority
  | groupContent hasGroupContext =>
      cases applied
      rw [SessionState.groupsAuthoritative_noteGroupContent]
      exact authority
  | refreshed result =>
      cases result with
      | ok done =>
          simp only [SessionChange.apply, Option.ite_none_right_eq_some] at applied
          cases applied.2
          rfl
      | error error => exact absurd trivial kept
  | groupSynced result =>
      cases result with
      | ok done =>
          cases applied
          rfl
      | error error => exact absurd trivial kept
  | recover error => exact absurd trivial kept

theorem Gated.actorStep (holds : Gated state history) (session : next.session = state.session)
    (uploads : next.uploads = state.uploads) (actor : Relies state.session next.actor)
    (noSend : ∀ user key groups, .sendStarted user key groups ∉ entries) :
    Gated next (history ++ entries) where
  uploads := by
    rw [session, uploads]
    exact holds.uploads
  actor := by
    rw [session]
    exact actor
  known := holds.known.append noSend

theorem Gated.uploadStep (holds : Gated state history) (session : next.session = state.session)
    (actor : next.actor = state.actor) (authority : state.session.groupsAuthoritative = true)
    (known : NeverPending (history ++ entries)) : Gated next (history ++ entries) where
  uploads := by
    rw [session]
    exact fun _ _ _ => authority
  actor := by
    rw [session, actor]
    exact holds.actor
  known := known

theorem noSend_of_group (shown : List OutboxEntry) (user : GroupUser) (key : GroupKey)
    (groups : GroupSnapshotState) :
    .sendStarted user key groups ∉ shown.map (GroupOperationsEntry.group <| .outbox ·) := by
  simp

theorem noSend_readOutbox {outbox : Outbox} {clockMs : Nat} {readError : Option StoreError}
    (user : GroupUser) (key : GroupKey) (groups : GroupSnapshotState) :
    .sendStarted user key groups ∉ (readOutbox outbox clockMs readError).2 := by
  intro started
  rcases readOutbox_entries started with ⟨text, isShown⟩
  cases isShown

theorem authority_of_attempt {session : SessionState} {origin : AttemptOrigin}
    {groupsAuthoritative : Bool} {message : ClientOutboxMessage}
    {later : List ClientOutboxMessage}
    (relies : Relies session (.attempting origin groupsAuthoritative (message :: later)))
    (attempts : origin.attempts groupsAuthoritative message = true)
    (group : message.kind = .group) : session.groupsAuthoritative = true := by
  rcases relies with ⟨same, covered⟩
  rw [← same]
  cases origin with
  | send command => exact covered command rfl message (List.mem_cons_self ..) group
  | retry => simpa [AttemptOrigin.attempts, outboxMessageIsAttemptable, group] using attempts
  | leave command =>
      simpa [AttemptOrigin.attempts, outboxMessageIsAttemptable, group] using attempts

theorem Relies.later {session : SessionState} {origin : AttemptOrigin}
    {groupsAuthoritative : Bool} {message : ClientOutboxMessage}
    {later : List ClientOutboxMessage}
    (relies : Relies session (.attempting origin groupsAuthoritative (message :: later))) :
    Relies session (.attempting origin groupsAuthoritative later) :=
  ⟨relies.1, fun command isSend other member =>
    relies.2 command isSend other (List.mem_cons_of_mem _ member)⟩

theorem groupCall_kind {departed : DepartedGroups} {cache : MetadataCache}
    {message : ClientOutboxMessage} {reads : GroupReads} {key : GroupKey}
    (called : groupCall account departed cache message reads = some key) :
    message.kind = .group := by
  unfold groupCall at called
  split at called
  · cases called
  · assumption

theorem Gated.step {label : GroupOperationsLabel} (holds : Gated state history)
    (between : RevokesBetweenUploads state label)
    (stepped : state.step account label = some (next, entries)) :
    Gated next (history ++ entries) := by
  have relies := holds.actor
  cases transition_of_step stepped with
  | @session change session idle changed =>
      constructor
      · intro task upload isUpload
        by_cases revokes : Revokes (.session change)
        · rw [between revokes task] at isUpload
          cases isUpload
        · exact groupsAuthoritative_of_apply changed revokes (holds.uploads task upload isUpload)
      · simp only [idle]
        trivial
      · simpa using holds.known
  | @send command outcomes idle =>
      rcases takeSend_cases state command outcomes with ⟨outbox, -, ended | attempting⟩
      · rcases ended with ⟨shown, taken⟩
        rw [taken]
        exact holds.actorStep rfl rfl relies (noSend_of_group shown)
      · rcases attempting with ⟨message, allowed, taken⟩
        rw [taken]
        refine holds.actorStep rfl rfl ⟨rfl, ?_⟩ (by simp)
        intro other isSend first isFirst
        rw [List.mem_singleton.mp isFirst]
        exact allowed
  | retry idle =>
      exact holds.actorStep rfl rfl ⟨rfl, covered_of_noSend (by simp)⟩ noSend_readOutbox
  | skip actor =>
      rw [actor] at relies
      exact holds.actorStep rfl rfl relies.later (by simp)
  | @attempt outcomes origin groupsAuthoritative message later actor attempts ready =>
      rw [actor] at relies
      simp only [GroupOperations.attempt]
      split
      next key called =>
        have authority := authority_of_attempt relies attempts (groupCall_kind called)
        exact ⟨holds.uploads, relies.later, holds.known.start authority .actor key⟩
      next => exact holds.actorStep rfl rfl relies.later (noSend_of_group _)
  | sent actor =>
      rw [actor] at relies
      exact holds.actorStep rfl rfl relies (by simp [GroupOperations.sent])
  | @attempted origin groupsAuthoritative actor =>
      refine holds.actorStep rfl rfl trivial ?_
      cases origin <;> simp [GroupOperations.attempted]
  | leave idle => exact holds.actorStep rfl rfl rfl (by simp [takeLeave])
  | refuse actor => exact holds.actorStep rfl rfl trivial (by simp [abandon])
  | leaveLookup actor free =>
      rw [actor] at relies
      unfold GroupOperations.leaveLookup
      split
      · exact holds.actorStep rfl rfl trivial (by simp [abandon])
      · exact holds.actorStep rfl rfl trivial (by simp [abandon])
      · exact holds.actorStep rfl rfl (Eq.symm relies) (by simp)
  | @leaveReturned command key result actor =>
      rw [actor] at relies
      cases result with
      | ok outcome =>
          exact holds.actorStep rfl rfl relies (by simp [GroupOperations.leaveReturned])
      | error error =>
          exact holds.actorStep rfl rfl trivial (by simp [GroupOperations.leaveReturned])
  | @leaveCleanup command expedite clockMs readError actor =>
      rw [actor] at relies
      refine holds.actorStep rfl rfl ⟨Eq.symm relies, covered_of_noSend (by simp)⟩ ?_
      intro user key groups started
      rcases List.mem_append.mp started with cleaned | read
      · simp at cleaned
      · exact noSend_readOutbox user key groups read
  | shutdown =>
      refine holds.actorStep rfl rfl trivial ?_
      intro user key groups started
      change _ ∈ interrupted state.actor at started
      unfold interrupted at started
      split at started <;> simp at started
  | spawn idle authority unused =>
      exact holds.uploadStep rfl rfl authority (by simpa using holds.known)
  | @uploadLookup task reads identifier upload =>
      have authority := holds.uploads task _ upload
      simp only [GroupOperations.uploadLookup]
      split <;> exact holds.uploadStep rfl rfl authority (by simpa using holds.known)
  | @uploadLock task key upload free =>
      exact holds.uploadStep rfl rfl (holds.uploads task _ upload) (by simpa using holds.known)
  | @uploadCheck task reads key upload =>
      have authority := holds.uploads task _ upload
      unfold GroupOperations.uploadCheck
      split
      · exact holds.uploadStep rfl rfl authority (holds.known.start authority _ _)
      · exact holds.uploadStep rfl rfl authority (by simpa using holds.known)
      · exact holds.uploadStep rfl rfl authority (by simpa using holds.known)
  | @uploadEnd task upload isUpload =>
      have known : NeverPending (history ++ ended task upload) := by
        apply holds.known.append
        cases upload <;> simp [ended]
      exact holds.uploadStep rfl rfl (holds.uploads task upload isUpload) known

/-- In every run in which authority is only taken back between uploads, no group send is
called while the groups are not known. -/
theorem run_sends_only_to_known_groups {account : Account} {labels : List GroupOperationsLabel}
    {final : GroupOperations} {history : List GroupOperationsEntry}
    (between : (machine account).StepsMeet RevokesBetweenUploads (machine account).initial labels)
    (runs : (machine account).run labels = some (final, history)) :
    NeverPending history := by
  have gated : Gated final history := by
    apply Machine.run_invariant_of_steps (machine account) gated_initial _ between runs
    exact fun state earlier label next entries holds meets stepped => holds.step meets stepped
  exact gated.known

def sampleUpload (revoked : List GroupOperationsLabel) : List GroupOperationsLabel :=
  [.session .ready, .session (.groupSynced (.ok ())), .spawn 1 "sevens",
    .upload 1 (.lookup GroupSession.acceptedLeave.reads)] ++ revoked ++
  [.upload 1 .lock, .upload 1 (.check GroupSession.acceptedLeave.reads)]

/-- An upload ends before the refresh fails, and another one begins after the groups are known
again. -/
def uploadTwice : List GroupOperationsLabel :=
  sampleUpload [] ++
    [.upload 1 .finish, .session (.groupContent true),
      .session (.refreshed (.error "database is locked")), .session (.groupSynced (.ok ())),
      .spawn 2 "sevens", .upload 2 (.lookup GroupSession.acceptedLeave.reads), .upload 2 .lock,
      .upload 2 (.check GroupSession.acceptedLeave.reads)]

def checkRevokes (state : GroupOperations) : GroupOperationsLabel → Bool
  | .session (.refreshed (.error _)) | .session (.groupSynced (.error _))
  | .session (.recover _) => state.uploads.keys.isEmpty
  | _ => true

theorem revokesBetweenUploads_of_check (state : GroupOperations) (label : GroupOperationsLabel)
    (checked : checkRevokes state label = true) : RevokesBetweenUploads state label := by
  intro revokes task
  have nothing : state.uploads.keys = [] := by
    unfold Revokes at revokes
    split at revokes
    · exact List.isEmpty_iff.mp checked
    · exact List.isEmpty_iff.mp checked
    · exact List.isEmpty_iff.mp checked
    · cases revokes
  exact AList.lookup_eq_none.mpr (by simp [AList.mem_keys, nothing])

theorem run_sends_only_to_known_groups_sample :
    ∃ final history,
      (machine GroupSession.ownAccount).run uploadTwice = some (final, history) ∧
        history =
          [.sendStarted (.upload 1) GroupKey.sevens .authoritative,
            .sendEnded (.upload 1) GroupKey.sevens,
            .sendStarted (.upload 2) GroupKey.sevens .authoritative] ∧
        NeverPending history := by
  have between : (machine GroupSession.ownAccount).StepsMeet RevokesBetweenUploads
      (machine GroupSession.ownAccount).initial uploadTwice := by
    apply Machine.stepsMeet_of_checkSteps _ revokesBetweenUploads_of_check
    decide +kernel
  have runs : ∃ final, (machine GroupSession.ownAccount).run uploadTwice = some (final, _) :=
    ⟨_, rfl⟩
  rcases runs with ⟨final, runs⟩
  exact ⟨final, _, runs, rfl, run_sends_only_to_known_groups between runs⟩

/-- The refresh of dirty groups fails, or the connection is lost, while an attachment is
uploaded: the attachment is sent to its group all the same. -/
theorem upload_sends_to_pending_group :
    (∃ final, (machine GroupSession.ownAccount).run
        (sampleUpload [.session (.groupContent true),
          .session (.refreshed (.error "database is locked"))]) =
      some (final, [.sendStarted (.upload 1) GroupKey.sevens .pending])) ∧
    ∃ final, (machine GroupSession.ownAccount).run
        (sampleUpload [.session (.recover "connection reset")]) =
      some (final, [.sendStarted (.upload 1) GroupKey.sevens .pending]) :=
  ⟨⟨_, rfl⟩, ⟨_, rfl⟩⟩

end GroupOperations

end SignalPurple
