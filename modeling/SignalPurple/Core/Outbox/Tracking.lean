import SignalPurple.Core.Outbox.Attempt

/-! # The rows follow the history

The invariant behind the law of the outbox: after every run, the rows that are left are
those of the messages whose life goes on, each with the number of its failures.
-/

namespace SignalPurple

variable {account : Account} {departed : DepartedGroups}

/-! ## The law of one attempt -/

/-- What holds of an attempt that is made after `history`. -/
structure AttemptLaw (account : Account) (history : List OutboxRunEntry)
    (record : AttemptRecord) : Prop where
  carries : ∃ message, .enqueued message ∈ history ∧ message.id = record.id ∧
    ∀ call ∈ record.handovers, Carries account message call
  once : record.handovers.length ≤ 1
  sent : (∃ call ∈ record.handovers, call.result = .sent) ↔ record.outcome = .succeeded
  stored : ∃ row, record.before.outbox.find record.id = some row ∧
    row.attempts = failures record.id history
  others : ∀ id, id ≠ record.id →
    record.performed.state.outbox.find id = record.before.outbox.find id
  deleted : record.performed.state.outbox.find record.id = none ↔
    record.outcome = .succeeded ∨ record.outcome = .refused ∨
      record.outcome = .failed ∧ failures record.id history + 1 = maxOutboxAttempts
  deferred : ∀ row, record.performed.state.outbox.find record.id = some row →
    row.attempts = failures record.id history + 1 ∧
      row.retryAtMs = min (record.clockMs + 5000 * 2 ^ row.attempts) (2 ^ 64 - 1)
  reported : record.performed.state.outbox.find record.id = none →
    record.outcome ≠ .succeeded → ShowsError record.notices

/-- The state a history has led to: the rows that are left are those of the messages whose
life goes on, each with the number of its failures. -/
structure Tracks (account : Account) (state : OutboxState) (history : List OutboxRunEntry) :
    Prop where
  indexed : state.cache.Sound account
  distinct : (enqueuedIds history).Nodup
  below : ∀ message, .enqueued message ∈ history → message.id < state.outbox.nextId
  unused : ∀ id, state.outbox.nextId ≤ id → outcomesOf id history = []
  enqueued : ∀ row ∈ state.outbox.rows, ∃ message, .enqueued message ∈ history ∧
    row.toClientOutboxMessage = { message with attempts := row.attempts }
  waiting : ∀ row ∈ state.outbox.rows,
    Progress.follow maxOutboxAttempts (outcomesOf row.id history) = some (.waiting row.attempts)
  ended : ∀ message, .enqueued message ∈ history → state.outbox.find message.id = none →
    Progress.follow maxOutboxAttempts (outcomesOf message.id history) = some .finished
  rejections : ∀ entries, .rejected entries ∈ history →
    entries.filterMap OutboxEntry.handover = []
  lawful : History.Justified
    (fun before entry => ∀ record, entry = .attempted record → AttemptLaw account before record)
    history

theorem tracks_initial (account : Account) :
    Tracks account {} [] where
  indexed := MetadataCache.sound_empty account
  distinct := List.nodup_nil
  below := by simp
  unused := by simp
  enqueued := by simp
  waiting := by simp
  ended := by simp
  rejections := by simp
  lawful := History.justified_nil _

section Preservation

variable {state : OutboxState} {history : List OutboxRunEntry}

theorem Tracks.withCache (tracks : Tracks account state history) {cache : MetadataCache}
    (sound : cache.Sound account) : Tracks account { state with cache } history :=
  { tracks with indexed := sound }

theorem Tracks.reject (tracks : Tracks account state history) {entries : List OutboxEntry}
    (quiet : entries.filterMap OutboxEntry.handover = []) :
    Tracks account state (history ++ [.rejected entries]) where
  indexed := tracks.indexed
  distinct := by simpa using tracks.distinct
  below := by simpa using tracks.below
  unused := by simpa [outcomesOf_append] using tracks.unused
  enqueued := by simpa using tracks.enqueued
  waiting := by simpa [outcomesOf_append] using tracks.waiting
  ended := by simpa [outcomesOf_append] using tracks.ended
  rejections := by
    intro other member
    rcases List.mem_append.mp member with earlier | new
    · exact tracks.rejections other earlier
    · cases List.mem_singleton.mp new
      exact quiet
  lawful := by
    rw [History.justified_append]
    exact ⟨tracks.lawful, by simp⟩

theorem Tracks.enqueue (tracks : Tracks account state history) (request : NewOutboxMessage)
    (timestamp : UInt64) :
    Tracks account
      { state with
        outbox := state.outbox.enqueue request.kind request.recipient request.body timestamp }
      (history ++ [.enqueued (newMessage state.outbox request timestamp)]) where
  indexed := tracks.indexed
  distinct := by
    rw [enqueuedIds_append, List.nodup_append]
    refine ⟨tracks.distinct, by simp, ?_⟩
    intro id member other new same
    rcases mem_enqueuedIds.mp member with ⟨message, known, rfl⟩
    have isNext : other = state.outbox.nextId := by simpa [newMessage] using new
    have below := tracks.below message known
    omega
  below := by
    intro message member
    rcases List.mem_append.mp member with earlier | new
    · exact Nat.lt_succ_of_lt (tracks.below message earlier)
    · cases List.mem_singleton.mp new
      exact Nat.lt_succ_self _
  unused := by
    intro id unused
    rw [outcomesOf_append, tracks.unused id (Nat.le_of_succ_le unused)]
    rfl
  enqueued := by
    intro row member
    rcases List.mem_append.mp member with before | new
    · rcases tracks.enqueued row before with ⟨message, known, same⟩
      exact ⟨message, List.mem_append_left _ known, same⟩
    · cases List.mem_singleton.mp new
      exact ⟨_, List.mem_append_right _ (List.mem_singleton_self _), rfl⟩
  waiting := by
    intro row member
    rcases List.mem_append.mp member with before | new
    · simpa [outcomesOf_append] using tracks.waiting row before
    · cases List.mem_singleton.mp new
      simp [outcomesOf_append, tracks.unused _ (Nat.le_refl _)]
  ended := by
    intro message member absent
    rcases List.mem_append.mp member with earlier | new
    · have other := Nat.ne_of_lt (tracks.below message earlier)
      rw [Outbox.find_enqueue_of_ne other] at absent
      simpa [outcomesOf_append] using tracks.ended message earlier absent
    · cases List.mem_singleton.mp new
      have stored := state.outbox.find_enqueue_self request timestamp
      rw [newMessage, stored] at absent
      cases absent
  rejections := by
    intro entries member
    exact tracks.rejections entries (by simpa using member)
  lawful := by
    rw [History.justified_append]
    exact ⟨tracks.lawful, by simp⟩

theorem Tracks.failures_eq (tracks : Tracks account state history) {row : OutboxRow}
    (member : row ∈ state.outbox.rows) :
    failures row.id history = row.attempts ∧ row.attempts < maxOutboxAttempts := by
  rcases Progress.follow_eq_waiting (by decide) (tracks.waiting row member) with ⟨all, below⟩
  exact ⟨by simp [failures, all], below⟩

section Attempting

variable {message : ClientOutboxMessage} {outcomes : AttemptOutcomes}
  {notices : Performed → List OutboxEntry} {row : OutboxRow}

variable (account departed state notices) in
theorem outbox_recordAttempt (stored : outcomes.finish = .stored)
    (below : message.attempts < maxOutboxAttempts) :
    (recordAttempt account departed state message outcomes notices).performed.finishError =
        none ∧
      ((Progress.advance maxOutboxAttempts (.waiting message.attempts)
            (recordAttempt account departed state message outcomes notices).outcome =
              some .finished ∧
          (recordAttempt account departed state message outcomes notices).performed.state.outbox =
            state.outbox.complete message.id) ∨
        ((recordAttempt account departed state message outcomes notices).outcome = .failed ∧
          message.attempts + 1 < maxOutboxAttempts ∧
          (recordAttempt account departed state message outcomes notices).performed.state.outbox =
            state.outbox.defer message.id (message.attempts + 1)
              (min (outcomes.clockMs + 5000 * 2 ^ (message.attempts + 1)) (2 ^ 64 - 1)))) := by
  have finished := finishOutboxAttempt_cases state.outbox below
    (attemptOutboxMessage account departed state.cache message outcomes).result outcomes.clockMs
  simpa only [recordAttempt, performAttempt, AttemptRecord.outcome, stored] using finished

/-- The rows after the attempt of the row `row`. -/
structure RowsAfter (row : OutboxRow) (record : AttemptRecord) : Prop where
  others : ∀ id, id ≠ row.id →
    record.performed.state.outbox.find id = record.before.outbox.find id
  nextId : record.performed.state.outbox.nextId = record.before.outbox.nextId
  cases : (record.performed.state.outbox.find row.id = none ∧
      Progress.advance maxOutboxAttempts (.waiting row.attempts) record.outcome =
        some .finished) ∨
    (row.attempts + 1 < maxOutboxAttempts ∧ record.outcome = .failed ∧
      record.performed.state.outbox.find row.id =
        some { row with
          attempts := row.attempts + 1
          retryAtMs :=
            min (record.clockMs + 5000 * 2 ^ (row.attempts + 1)) (2 ^ 64 - 1) })

variable (account departed notices) in
theorem rowsAfter_recordAttempt (member : row ∈ state.outbox.rows)
    (stored : outcomes.finish = .stored) (below : row.attempts < maxOutboxAttempts) :
    RowsAfter row
      (recordAttempt account departed state row.toClientOutboxMessage outcomes notices) := by
  have found : state.outbox.find row.id = some row := Outbox.find_eq_some.mpr ⟨member, rfl⟩
  rcases (outbox_recordAttempt account departed state notices stored below).2 with
    ⟨finished, removed⟩ | ⟨failed, more, deferred⟩
  · constructor
    · intro id other
      rw [removed]
      exact Outbox.find_complete_of_ne other
    · rw [removed]
      rfl
    · rw [removed]
      exact Or.inl ⟨Outbox.find_complete_self _, finished⟩
  · constructor
    · intro id other
      rw [deferred]
      exact Outbox.find_defer_of_ne other _ _
    · rw [deferred]
      rfl
    · rw [deferred]
      exact Or.inr ⟨more, failed, Outbox.find_defer_self found _ _⟩

theorem handovers_recordAttempt
    (spec : NoticeSpec message (performAttempt account departed state message outcomes)
      (notices (performAttempt account departed state message outcomes))) :
    (recordAttempt account departed state message outcomes notices).handovers =
      (attemptOutboxMessage account departed state.cache message outcomes).entries.filterMap
        OutboxEntry.handover := by
  simp only [AttemptRecord.handovers, AttemptRecord.entries, recordAttempt,
    List.filterMap_append, spec.quiet, List.append_nil, handovers_performAttempt]

theorem Tracks.attemptLaw (tracks : Tracks account state history)
    (member : row ∈ state.outbox.rows) (isMessage : row.toClientOutboxMessage = message)
    (stored : outcomes.finish = .stored)
    (spec : NoticeSpec message (performAttempt account departed state message outcomes)
      (notices (performAttempt account departed state message outcomes))) :
    AttemptLaw account history
      (recordAttempt account departed state message outcomes notices) := by
  subst isMessage
  have attempted : AttemptSpec account row.toClientOutboxMessage
      (attemptOutboxMessage account departed state.cache row.toClientOutboxMessage outcomes) :=
    attemptSpec_attemptOutboxMessage tracks.indexed _ outcomes
  have handovers := handovers_recordAttempt spec
  rcases tracks.failures_eq member with ⟨count, below⟩
  rcases tracks.enqueued row member with ⟨message, known, same⟩
  have after := rowsAfter_recordAttempt account departed notices member stored below
  constructor
  case carries =>
    refine ⟨message, known, (congrArg ClientOutboxMessage.id same).symm, ?_⟩
    rw [handovers]
    exact fun call called => (attempted.carries call called).of_same same
  case once =>
    rw [handovers]
    exact attempted.once
  case sent =>
    rw [handovers, attempted.sent]
    exact succeeded_iff.symm
  case stored => exact ⟨row, Outbox.find_eq_some.mpr ⟨member, rfl⟩, count.symm⟩
  case others => exact after.others
  case deleted =>
    change _ ↔ _ ∨ _ ∨ _ ∧ failures row.id history + 1 = maxOutboxAttempts
    rw [count, ← Progress.advance_eq_finished below]
    rcases after.cases with ⟨removed, finished⟩ | ⟨more, failed, deferred⟩
    · exact iff_of_true removed finished
    · refine iff_of_false (fun absent => ?_) (fun finished => ?_)
      · cases deferred.symm.trans absent
      · simp [failed, Progress.advance, more] at finished
  case deferred =>
    intro kept isKept
    change kept.attempts = failures row.id history + 1 ∧ _
    rw [count]
    rcases after.cases with ⟨removed, finished⟩ | ⟨more, failed, deferred⟩
    · cases removed.symm.trans isKept
    · cases deferred.symm.trans isKept
      exact ⟨rfl, rfl⟩
  case reported =>
    intro absent unsent
    rcases after.cases with ⟨removed, finished⟩ | ⟨more, failed, deferred⟩
    · have finishError := (outbox_recordAttempt account departed state notices stored below).1
      cases result : (performAttempt account departed state row.toClientOutboxMessage
          outcomes).result with
      | ok sent =>
          exact absurd (succeeded_iff.mpr ⟨sent, result⟩) unsent
      | error error =>
          apply spec.shows finishError error result
          apply isTerminal_of_finished below
          rw [← result]
          exact finished
    · cases deferred.symm.trans absent

theorem RowsAfter.mem {record : AttemptRecord} (after : RowsAfter row record)
    {later : OutboxRow} (member : later ∈ record.performed.state.outbox.rows) :
    (later ∈ record.before.outbox.rows ∧ later.id ≠ row.id) ∨
      (row.attempts + 1 < maxOutboxAttempts ∧ record.outcome = .failed ∧
        later = { row with
          attempts := row.attempts + 1
          retryAtMs :=
            min (record.clockMs + 5000 * 2 ^ (row.attempts + 1)) (2 ^ 64 - 1) }) := by
  have found : record.performed.state.outbox.find later.id = some later :=
    Outbox.find_eq_some.mpr ⟨member, rfl⟩
  by_cases same : later.id = row.id
  · rw [same] at found
    rcases after.cases with ⟨removed, -⟩ | ⟨more, failed, deferred⟩
    · cases removed.symm.trans found
    · exact Or.inr ⟨more, failed, Option.some.inj (found.symm.trans deferred)⟩
  · rw [after.others later.id same] at found
    exact Or.inl ⟨(Outbox.find_eq_some.mp found).1, same⟩

/-- After the attempt of a stored row, the rows that are left are still those of the
messages whose life goes on. -/
theorem Tracks.extend (tracks : Tracks account state history) {record : AttemptRecord}
    (member : row ∈ state.outbox.rows) (before : record.before = state)
    (sameId : record.id = row.id) (after : RowsAfter row record)
    (sound : record.performed.state.cache.Sound account)
    (law : AttemptLaw account history record) :
    Tracks account record.performed.state (history ++ [.attempted record]) := by
  subst before
  have followed := tracks.waiting row member
  have extended : outcomesOf row.id (history ++ [.attempted record]) =
      outcomesOf row.id history ++ [record.outcome] := by
    rw [outcomesOf_append, ← sameId, outcomesOf_attempted_self]
  have unchanged : ∀ id, id ≠ row.id →
      outcomesOf id (history ++ [.attempted record]) = outcomesOf id history := by
    intro id other
    rw [← sameId] at other
    rw [outcomesOf_append, outcomesOf_attempted_of_ne other, List.append_nil]
  constructor
  case indexed => exact sound
  case distinct => simpa using tracks.distinct
  case below =>
    intro message known
    rw [after.nextId]
    exact tracks.below message (by simpa using known)
  case unused =>
    intro id unused
    rw [after.nextId] at unused
    have below := record.before.outbox.fresh row member
    rw [unchanged id (by omega)]
    exact tracks.unused id unused
  case enqueued =>
    intro later isLater
    rcases after.mem isLater with ⟨old, -⟩ | ⟨-, -, rfl⟩
    · rcases tracks.enqueued later old with ⟨message, known, same⟩
      exact ⟨message, List.mem_append_left _ known, same⟩
    · rcases tracks.enqueued row member with ⟨message, known, same⟩
      exact ⟨message, List.mem_append_left _ known, by rw [same]⟩
  case waiting =>
    intro later isLater
    rcases after.mem isLater with ⟨old, other⟩ | ⟨more, failed, rfl⟩
    · rw [unchanged later.id other]
      exact tracks.waiting later old
    · change Progress.follow _ (outcomesOf row.id _) = _
      simp [extended, Progress.follow_concat, followed, failed, Progress.advance, more]
  case ended =>
    intro message known absent
    have earlier : .enqueued message ∈ history := by simpa using known
    by_cases same : message.id = row.id
    · rw [same] at absent ⊢
      rcases after.cases with ⟨-, finished⟩ | ⟨-, -, deferred⟩
      · simp [extended, Progress.follow_concat, followed, finished]
      · cases deferred.symm.trans absent
    · rw [after.others _ same] at absent
      rw [unchanged _ same]
      exact tracks.ended message earlier absent
  case rejections =>
    intro entries rejected
    exact tracks.rejections entries (by simpa using rejected)
  case lawful =>
    rw [History.justified_append]
    refine ⟨tracks.lawful, ?_⟩
    rw [History.justified_singleton]
    intro other isRecord
    cases isRecord
    simpa using law

theorem Tracks.attempt (tracks : Tracks account state history)
    (member : row ∈ state.outbox.rows) (isMessage : row.toClientOutboxMessage = message)
    (stored : outcomes.finish = .stored)
    (spec : NoticeSpec message (performAttempt account departed state message outcomes)
      (notices (performAttempt account departed state message outcomes))) :
    Tracks account (recordAttempt account departed state message outcomes notices).performed.state
      (history ++ [.attempted (recordAttempt account departed state message outcomes notices)]) := by
  have law := tracks.attemptLaw member isMessage stored spec
  subst isMessage
  have below := (tracks.failures_eq member).2
  exact tracks.extend member rfl rfl
    (rowsAfter_recordAttempt account departed notices member stored below)
    (attemptSpec_attemptOutboxMessage tracks.indexed _ outcomes).indexed law

end Attempting

/-! ## Whole calls -/

theorem Tracks.retryMessages {groupsAuthoritative : Bool}
    {outcomes : ClientOutboxMessage → AttemptOutcomes} {messages : List ClientOutboxMessage} :
    ∀ {state : OutboxState} {history : List OutboxRunEntry}, Tracks account state history →
      (messages.map (·.id)).Nodup →
      (∀ message ∈ messages, ∃ row ∈ state.outbox.rows, row.toClientOutboxMessage = message) →
      (∀ message ∈ messages, (outcomes message).finish = .stored) →
      Tracks account
        (retryMessages account departed groupsAuthoritative outcomes state messages).1
        (history ++ (retryAttempts account departed groupsAuthoritative outcomes state
          messages).map .attempted) := by
  induction messages with
  | nil =>
      intro state history tracks distinct rows stored
      simpa [SignalPurple.retryMessages, retryAttempts] using tracks
  | cons message later induction =>
      intro state history tracks distinct rows stored
      rw [List.map_cons, List.nodup_cons] at distinct
      have laterStored : ∀ other ∈ later, (outcomes other).finish = .stored :=
        fun other member => stored other (List.mem_cons_of_mem _ member)
      rw [SignalPurple.retryMessages, retryAttempts]
      split
      · rcases rows message (List.mem_cons_self ..) with ⟨row, member, isMessage⟩
        have finish := stored message (List.mem_cons_self ..)
        have spec := noticeSpec_retryNotice message
          (performAttempt account departed state message (outcomes message))
        have law := tracks.attemptLaw member isMessage finish spec
        have continued := tracks.attempt member isMessage finish spec
        -- The rows that are still to come are not touched by this attempt.
        have laterRows : ∀ other ∈ later,
            ∃ row ∈ (recordAttempt account departed state message (outcomes message)
              (retryNotice message)).performed.state.outbox.rows,
              row.toClientOutboxMessage = other := by
          intro other isLater
          rcases rows other (List.mem_cons_of_mem _ isLater) with ⟨kept, inRows, rfl⟩
          refine ⟨kept, ?_, rfl⟩
          have apart : kept.id ≠ message.id := by
            intro same
            exact distinct.1 (same ▸ List.mem_map_of_mem isLater)
          have found := law.others kept.id apart
          rw [show (recordAttempt account departed state message (outcomes message)
              (retryNotice message)).before = state from rfl,
            Outbox.find_eq_some.mpr ⟨inRows, rfl⟩] at found
          exact (Outbox.find_eq_some.mp found).1
        have whole := induction continued distinct.2 laterRows laterStored
        rw [List.append_assoc] at whole
        exact whole
      · exact induction tracks distinct.2
          (fun other member => rows other (List.mem_cons_of_mem _ member)) laterStored

theorem Tracks.send (tracks : Tracks account state history) (command : SendCommand)
    {outcomes : SendOutcomes} (stored : outcomes.attempt.finish = .stored) :
    Tracks account (sendRecord account departed state command outcomes).performed.state
      (history ++ [.enqueued (newMessage state.outbox command.request outcomes.timestamp),
        .attempted (sendRecord account departed state command outcomes)]) := by
  have enqueued := tracks.enqueue command.request outcomes.timestamp
  have attempted := enqueued.attempt
    (List.mem_append_right _ (List.mem_singleton_self _)) rfl stored
    (noticeSpec_sendNotice command rfl
      (performAttempt account departed _ _ outcomes.attempt))
  rw [List.append_assoc] at attempted
  exact attempted

theorem tracks_step {label : OutboxRunLabel} {next : OutboxState}
    {entries : List OutboxRunEntry} (tracks : Tracks account state history)
    (stepped : OutboxRun.step account state label = some (next, entries)) :
    Tracks account next (history ++ entries) := by
  cases label with
  | send departed groupsAuthoritative command outcomes =>
      simp only [OutboxRun.step] at stepped
      split at stepped
      next rejected =>
        rcases handleSend_of_rejected rejected with ⟨same, quiet, sound⟩
        cases stepped
        have unchanged := (tracks.withCache (sound tracks.indexed)).reject quiet
        rw [← same] at unchanged
        exact unchanged
      next middle accepted =>
        split at stepped
        next stored =>
          cases stepped
          rcases acceptedSend_eq_some accepted with ⟨same, sound⟩
          have looked := tracks.withCache (sound tracks.indexed)
          rw [← same] at looked
          rw [handleSend_of_accepted accepted stored.1]
          exact looked.send command stored.2
        next => cases stepped
  | retry departed groupsAuthoritative clockMs messages outcomes =>
      simp only [OutboxRun.step] at stepped
      split at stepped
      next due =>
        cases stepped
        refine tracks.retryMessages due.1.1 ?_ due.2
        intro message member
        rcases due.1.2 message member with ⟨row, inRows, same, -⟩
        exact ⟨row, inRows, same⟩
      next => cases stepped
  | indexGroup key =>
      cases stepped
      rw [List.append_nil]
      exact tracks.withCache (tracks.indexed.indexGroup rfl)
  | restart =>
      cases stepped
      rw [List.append_nil]
      exact tracks.withCache (MetadataCache.sound_empty account)

end Preservation

end SignalPurple
