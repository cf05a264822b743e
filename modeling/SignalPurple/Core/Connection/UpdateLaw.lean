import SignalPurple.Core.Connection.Updates

/-! # No update of a group is lost, but for one

What the session takes for known is what the last snapshot showed, read after the last content
of a group. The law is kept by every step but one: a result of a group sync is taken though a
content of a group has come since the store was read for it.
-/

namespace SignalPurple

namespace SnapshotRun

variable {account : Account} {state next : SnapshotRun} {history more : List UpdateEntry}
  {entries : List SnapshotEntry}

/-! ## One step -/

theorem ofEntry_abortion (emitter : GroupEmitter) :
    (abortion emitter).filterMap UpdateEntry.ofEntry = [] := by
  unfold abortion
  split <;> rfl

theorem ofEntry_of_advance {label : ConnectionLabel} {shown : List Event}
    (stepped : state.advance label shown = some (next, entries)) :
    entries.filterMap UpdateEntry.ofEntry = [] := by
  rcases Option.map_eq_some_iff.mp stepped with ⟨⟨reached, inner⟩, -, same⟩
  cases same
  have aborted : state.abortGroupSync.2.filterMap UpdateEntry.ofEntry = [] := by
    unfold abortGroupSync
    split
    · rfl
    · simp [List.filterMap_flatMap, ofEntry_abortion]
  have dropped : ∀ before : SnapshotRun,
      before.dropSnapshot.2.filterMap UpdateEntry.ofEntry = [] := by
    intro before
    simp [dropSnapshot, List.filterMap_flatMap, ofEntry_abortion]
  have followed : (state.follow reached).2.filterMap UpdateEntry.ofEntry = [] := by
    simp only [SnapshotRun.follow, List.filterMap_append]
    split <;> split <;> simp [aborted, dropped]
  simp [followed, List.filterMap_map, UpdateEntry.ofEntry, Function.comp_def]

theorem Overtaken.append (overtaken : Overtaken history) (more : List UpdateEntry) :
    Overtaken (history ++ more) := by
  rcases overtaken with ⟨before, between, after, id, rfl, content⟩
  exact ⟨before, between, after ++ more, id, by simp, content⟩

theorem overtaken_append (overtaken : Overtaken (history ++ more)) :
    Overtaken history ∨ ∃ before between inner after id, more = inner ++ .taken id :: after ∧
      history ++ inner = before ++ .read id :: between ∧ .groupContent ∈ between := by
  rcases overtaken with ⟨before, between, after, id, whole, content⟩
  rcases List.append_eq_append_iff.mp whole with ⟨inner, split, rfl⟩ | ⟨rest, rfl, tail⟩
  · exact Or.inr ⟨before, between, inner, after, id, rfl, split.symm, content⟩
  · cases rest with
    | nil => exact Or.inr ⟨before, between, [], after, id, tail.symm, by simp, content⟩
    | cons entry rest =>
        cases (List.cons.inj tail).1
        exact Or.inl ⟨before, between, rest, id, rfl, content⟩

theorem overtaken_of_untaken (untaken : ∀ id, .taken id ∉ more)
    (overtaken : Overtaken (history ++ more)) : Overtaken history := by
  rcases overtaken_append overtaken with already | ⟨_, _, _, _, id, rfl, -, -⟩
  · exact already
  · exact absurd (by simp) (untaken id)

theorem overtaken_concat {id : EmitterId} (overtaken : Overtaken (history ++ [.taken id])) :
    Overtaken history ∨
      ∃ before between, history = before ++ .read id :: between ∧ .groupContent ∈ between := by
  rcases overtaken_append overtaken with
    already | ⟨before, between, inner, after, other, split, whole, content⟩
  · exact Or.inl already
  · rcases List.append_eq_singleton_iff.mp split.symm with ⟨rfl, same⟩ | ⟨-, none⟩
    · cases same
      exact Or.inr ⟨before, between, by simpa using whole, content⟩
    · cases none

/-- The store was read once, so there is one place from which on nothing may have come. -/
theorem no_groupContent_of_readSince {id : EmitterId} {before between : List UpdateEntry}
    (once : history.count (.read id) = 1) (read : ReadSince id history)
    (split : history = before ++ .read id :: between) : .groupContent ∉ between := by
  rcases read with ⟨earlier, entry, later, rfl, rfl, quiet⟩
  rw [List.count_append, List.count_cons_self] at once
  have notEarlier : .read id ∉ earlier := List.count_eq_zero.mp (by omega)
  have notLater : .read id ∉ later := List.count_eq_zero.mp (by omega)
  rcases (List.append_cons_inj_of_notMem notEarlier notLater).mp split with ⟨-, -, rfl⟩
  exact fun content => quiet _ content rfl

structure Tracked (state : SnapshotRun) (history : List UpdateEntry) : Prop where
  apart : ∃ written, Apart state written
  underway : state.Underway history
  shown : ¬Overtaken history → state.connection.session.groups = .authoritative →
    ∃ id, LastEnded id history ∧ ReadSince id history

namespace Tracked

theorem initial : Tracked {} [] :=
  ⟨⟨[], Apart.initial⟩, Underway.initial, fun _ authoritative => by cases authoritative⟩

theorem ordinary {label : ConnectionLabel} {shown : List Event} (tracked : Tracked state history)
    (apart : ∃ written, Apart next written) (isOrdinary : label.endsSnapshot = false)
    (stepped : state.advance label shown = some (next, entries)) :
    Tracked next (history ++ UpdateEntry.ofLabel (.connection label)) := by
  rcases tracked.apart with ⟨written, before⟩
  rcases Option.map_eq_some_iff.mp stepped with ⟨⟨reached, inner⟩, moved, same⟩
  cases same
  have receives : ∀ entry ∈ UpdateEntry.ofLabel (.connection label), ∃ content,
      label = .received (some (.content content)) ∧ entry = .groupContent ∧
        contentHasGroupContext content.body = true := by
    intro entry member
    unfold UpdateEntry.ofLabel at member
    split at member
    next content isLabel =>
      cases isLabel
      split at member
      next inGroup => exact ⟨content, rfl, List.mem_singleton.mp member, inGroup⟩
      next => cases member
    next => cases member
  refine ⟨apart, tracked.underway.follow ?_ ?_ ?_ ?_, ?_⟩
  · intro isAwaited awaits
    rw [← before.linked.awaited] at isAwaited
    rcases Connection.control_of_awaiting isOrdinary moved isAwaited with same | stopped
    · exact same
    · rw [stopped] at awaits
      cases awaits
  · intro id member
    rcases receives _ member with ⟨_, -, same, -⟩
    cases same
  · intro entry member
    rcases receives entry member with ⟨_, -, rfl, -⟩
    rfl
  · intro member
    rcases receives _ member with ⟨content, rfl, -, -⟩
    have linked := before.linked.awaited
    rw [(Connection.step_receivedContent moved).1] at linked
    simpa [Control.awaitsSnapshot] using linked
  · intro fresh authoritative
    have known : state.connection.session.groups = .authoritative := by
      rcases Connection.authoritative_of_step moved authoritative with rfl | rfl | known
      · cases isOrdinary
      · cases isOrdinary
      · exact known
    have nothing : UpdateEntry.ofLabel (.connection label) = [] := by
      rw [List.eq_nil_iff_forall_not_mem]
      intro entry member
      rcases receives entry member with ⟨content, rfl, -, inGroup⟩
      rw [connection_follow, (Connection.step_receivedContent moved).2] at authoritative
      rw [(Connection.authoritative_receivedContent authoritative).2] at inGroup
      cases inGroup
    rw [nothing, List.append_nil] at fresh ⊢
    exact tracked.shown fresh known

theorem frame (tracked : Tracked state history) (apart : ∃ written, Apart next written)
    (connection : next.connection = state.connection)
    (tasks : ∀ task ∈ next.tasks, task ∈ state.tasks) (awaited : next.awaited = state.awaited)
    (nextEmitter : next.nextEmitter = state.nextEmitter) : Tracked next history := by
  refine ⟨apart, ⟨?_, ?_, ?_⟩, ?_⟩
  · rw [nextEmitter]
    exact tracked.underway.given
  · exact fun task member => tracked.underway.tasks task (tasks task member)
  · rw [awaited, connection]
    exact tracked.underway.awaited
  · rw [connection]
    exact tracked.shown

/-- An emission for which the store was just read has read it as it should, and one that
writes the end is the last that did. -/
theorem progress_of_writes {id : EmitterId} {authority : Bool} {emission : Emission}
    {Unread Read : List UpdateEntry → Prop}
    (goesOn : ∀ {earlier later}, Read earlier → .groupContent ∉ later → .read id ∉ later →
      Read (earlier ++ later))
    (starts : ∀ {earlier}, Unread earlier → Read (earlier ++ [.read id]))
    (writes : Emission.Writes id authority (Unread history) (Read history)
      (LastEnded id history) emission more) :
    emission.Progress authority (Unread (history ++ more)) (Read (history ++ more))
      (LastEnded id (history ++ more)) := by
  cases writes with
  | nothing progress =>
      rw [List.append_nil]
      exact progress
  | read unread progress =>
      refine progress.mono False.elim (fun _ => starts unread) fun last => ?_
      exact last.append (by simp [UpdateEntry.isEnded])
  | ended isAuthority progress =>
      refine progress.mono False.elim (fun read => goesOn read (by simp) (by simp)) fun _ => ?_
      exact (History.since_concat _ _).mpr (Or.inl rfl)

theorem given_of_writes {id bound : EmitterId} {authority : Bool} {emission : Emission}
    {Unread Read Ended : Prop} (given : ∀ other, .read other ∈ history → other < bound)
    (own : id < bound) (writes : Emission.Writes id authority Unread Read Ended emission more) :
    ∀ other, .read other ∈ history ++ more → other < bound := by
  intro other isRead
  rcases List.mem_append.mp isRead with earlier | isNew
  · exact given other earlier
  · cases writes with
    | nothing => cases isNew
    | read =>
        cases List.mem_singleton.mp isNew
        exact own
    | ended => cases List.mem_singleton.mp isNew

theorem ofEntry_wrote (id : EmitterId) (effects : List EmissionEffect) :
    (effects.map (SnapshotEntry.wrote id)).filterMap UpdateEntry.ofEntry =
      effects.filterMap (UpdateEntry.ofEffect id) := by
  rw [List.filterMap_map]
  rfl

theorem readSince_append {id : EmitterId} {earlier later : List UpdateEntry}
    (read : ReadSince id earlier) (none : .groupContent ∉ later) :
    ReadSince id (earlier ++ later) :=
  read.append fun _ member isContent => none (isContent ▸ member)

theorem snapshot {label : EmissionLabel} (tracked : Tracked state history)
    (apart : ∃ written, Apart next written)
    (stepped : state.step account (.snapshot label) = some (next, entries)) :
    Tracked next (history ++ entries.filterMap UpdateEntry.ofEntry) := by
  rcases tracked.apart with ⟨written, before⟩
  simp only [SnapshotRun.step] at stepped
  split at stepped
  next => cases stepped
  next emitter awaited =>
  rcases Option.map_eq_some_iff.mp stepped with ⟨_, emitted, same⟩
  rcases Option.map_eq_some_iff.mp emitted with ⟨⟨emission, effects⟩, moved, rfl⟩
  cases same
  rcases before.emitting.emitters_of_awaited awaited with ⟨alone, noTasks⟩
  have own := before.emitting.given emitter (by simp [alone])
  have writes := Emission.writes_of_step emitter.id (tracked.underway.awaited emitter awaited) moved
  rw [ofEntry_wrote]
  refine ⟨apart, ⟨given_of_writes tracked.underway.given own writes, by simp [noTasks], ?_⟩, ?_⟩
  · intro other isOther
    cases isOther
    exact @progress_of_writes _ _ _ _ _ (fun _ => True) _
      (fun read content _ => readSince_append read content)
      (fun _ => (History.since_concat _ _).mpr (Or.inl rfl)) writes
  · intro fresh authoritative
    rcases tracked.shown (fun overtaken => fresh (overtaken.append _)) authoritative with
      ⟨id, last, read⟩
    generalize effects.filterMap (UpdateEntry.ofEffect emitter.id) = more at writes
    cases writes with
    | nothing => exact ⟨id, by simpa using last, by simpa using read⟩
    | read => exact ⟨id, last.append (by simp [UpdateEntry.isEnded]), readSince_append read (by simp)⟩
    | ended isRefreshing =>
        -- A snapshot that `run` awaits is authoritative only if the groups are dirty.
        have dirty := before.settled.refreshing (by simpa using isRefreshing)
        change state.connection.session.groups = _ at authoritative
        rw [dirty] at authoritative
        cases authoritative

theorem task {id : EmitterId} {label : EmissionLabel} (tracked : Tracked state history)
    (apart : ∃ written, Apart next written)
    (stepped : state.step account (.task id label) = some (next, entries)) :
    Tracked next (history ++ entries.filterMap UpdateEntry.ofEntry) := by
  rcases tracked.apart with ⟨written, before⟩
  simp only [SnapshotRun.step] at stepped
  split at stepped
  next => cases stepped
  next emitter found =>
  rcases Option.map_eq_some_iff.mp stepped with ⟨_, emitted, same⟩
  rcases Option.map_eq_some_iff.mp emitted with ⟨⟨emission, effects⟩, moved, rfl⟩
  cases same
  rcases before.emitting.emitters_of_task found with ⟨rfl, alone, single, unawaited, owned⟩
  have own := before.emitting.given emitter (by simp [alone])
  have writes := Emission.writes_of_step emitter.id
    (tracked.underway.tasks emitter (by simp [single])) moved
  rw [ofEntry_wrote]
  refine ⟨apart, ⟨given_of_writes tracked.underway.given own writes, ?_, by simp [unawaited]⟩, ?_⟩
  · intro other isOther
    have isReached : other = { emitter with emission } := by simpa [single] using isOther
    subst isReached
    refine @progress_of_writes _ _ _ _ _ (fun earlier => .read emitter.id ∉ earlier)
      (fun earlier => earlier.count (.read emitter.id) = 1) ?_ ?_ writes
    · intro earlier later once _ noneLater
      rw [List.count_append, once, List.count_eq_zero_of_not_mem noneLater]
    · intro earlier unread
      rw [List.count_append, List.count_eq_zero_of_not_mem unread, List.count_singleton_self]
  · intro _ authoritative
    have pending := before.settled.syncPending (by rw [before.linked.groupSync, owned]; rfl)
    change state.connection.session.groups = _ at authoritative
    rw [pending] at authoritative
    cases authoritative

theorem underway_result {taken : SnapshotRun} (tracked : Tracked state history)
    (reached : Connection) (tasks : ∀ task ∈ taken.tasks, task ∈ state.tasks)
    (unawaited : taken.awaited = none) (nextEmitter : taken.nextEmitter = state.nextEmitter)
    (noneRead : ∀ id, .read id ∉ more) (noneEnded : ∀ entry ∈ more, entry.isEnded = false) :
    (taken.follow reached).1.Underway (history ++ more) := by
  have before : taken.Underway history :=
    ⟨nextEmitter ▸ tracked.underway.given,
      fun task member => tracked.underway.tasks task (tasks task member), by simp [unawaited]⟩
  exact before.follow (by simp [unawaited]) noneRead noneEnded fun _ => unawaited

theorem snapshotEnded (tracked : Tracked state history) (apart : ∃ written, Apart next written)
    (stepped : state.step account .snapshotEnded = some (next, entries)) :
    Tracked next (history ++ entries.filterMap UpdateEntry.ofEntry) := by
  simp only [SnapshotRun.step] at stepped
  split at stepped
  next id outcome awaited =>
    split at stepped
    next => cases stepped
    next label isLabel =>
    rw [ofEntry_of_advance stepped, List.append_nil]
    rcases Option.map_eq_some_iff.mp stepped with ⟨⟨reached, inner⟩, moved, same⟩
    cases same
    have underway : (({ state with awaited := none } : SnapshotRun).follow reached).1.Underway
        (history ++ []) :=
      tracked.underway_result reached (fun _ member => member) rfl rfl (by simp) (by simp)
    rw [List.append_nil] at underway
    refine ⟨apart, underway, fun fresh authoritative => ?_⟩
    rcases Connection.authoritative_of_step moved authoritative with rfl | rfl | known
    · unfold resultLabel at isLabel
      split at isLabel <;> cases isLabel
      next refreshing =>
      have finished := tracked.underway.awaited _ awaited
      rw [refreshing] at finished
      exact ⟨id, finished.2 rfl, finished.1⟩
    · unfold resultLabel at isLabel
      split at isLabel <;> cases isLabel
    · exact tracked.shown fresh known
  next => cases stepped

theorem groupSynced {id : EmitterId} (tracked : Tracked state history)
    (apart : ∃ written, Apart next written)
    (stepped : state.step account (.groupSynced id) = some (next, entries)) :
    Tracked next (history ++ (state.takesSync (.groupSynced id) ++
      entries.filterMap UpdateEntry.ofEntry)) := by
  rcases tracked.apart with ⟨written, before⟩
  simp only [SnapshotRun.step] at stepped
  split at stepped
  next taskId outcome found =>
    rcases before.emitting.emitters_of_task found with ⟨rfl, -, single, unawaited, owned⟩
    split at stepped
    · cases stepped
    rw [ofEntry_of_advance stepped, List.append_nil]
    rcases Option.map_eq_some_iff.mp stepped with ⟨⟨reached, inner⟩, moved, same⟩
    cases same
    have onlyTaken : ∀ entry ∈ state.takesSync (.groupSynced taskId), entry = .taken taskId := by
      simp only [takesSync]
      split <;> simp
    refine ⟨apart, ?_, fun fresh authoritative => ?_⟩
    · refine tracked.underway_result reached (fun _ member => List.mem_of_mem_filter member)
        unawaited rfl ?_ ?_
      · intro id member
        cases onlyTaken _ member
      · intro entry member
        rw [onlyTaken entry member]
        rfl
    · rcases Connection.authoritative_of_step moved authoritative with isLabel | isLabel | known
      · cases isLabel
      · cases isLabel
        have takes : state.takesSync (.groupSynced taskId) = [.taken taskId] := by
          simp [takesSync, found]
        have finished := tracked.underway.tasks ⟨taskId, .finished (.ok ())⟩ (by simp [single])
        rw [takes] at fresh ⊢
        have isRead : .read taskId ∈ history := List.count_pos_iff.mp (by simp [finished.1])
        have read : ReadSince taskId history := by
          rcases List.append_of_mem isRead with ⟨earlier, between, rfl⟩
          refine ⟨earlier, .read taskId, between, rfl, rfl, ?_⟩
          rintro entry member rfl
          exact fresh ⟨earlier, between, [], taskId, rfl, member⟩
        exact ⟨taskId, (finished.2 rfl).append (by simp [UpdateEntry.isEnded]),
          readSince_append read (by simp)⟩
      · have pending := before.settled.syncPending (by rw [before.linked.groupSync, owned]; rfl)
        change state.connection.session.groups = _ at known
        rw [pending] at known
        cases known
  next => cases stepped

theorem step {label : SnapshotLabel} {observed : List UpdateEntry} (tracked : Tracked state history)
    (stepped : state.updateStep account label = some (next, observed)) :
    Tracked next (history ++ observed) := by
  rcases Option.map_eq_some_iff.mp stepped with ⟨⟨reached, entries⟩, moved, same⟩
  cases same
  have apart : ∃ written, Apart reached written := by
    rcases tracked.apart with ⟨written, before⟩
    exact ⟨_, before.step moved⟩
  cases label with
  | connection label =>
      simp only [SnapshotRun.step] at moved
      split at moved
      next => cases moved
      next enabled =>
      simp only [Bool.or_eq_true, Bool.and_eq_true, not_or, Bool.not_eq_true] at enabled
      simp only [takesSync, ofEntry_of_advance moved, List.append_nil]
      exact tracked.ordinary apart enabled.1.1 moved
  | snapshot label => exact tracked.snapshot apart moved
  | snapshotEnded => exact tracked.snapshotEnded apart moved
  | task id label => exact tracked.task apart moved
  | taskStopped id =>
      simp only [SnapshotRun.step] at moved
      split at moved
      · cases moved
      · split at moved <;> cases moved
        change Tracked _ (history ++ [])
        rw [List.append_nil]
        exact tracked.frame apart rfl (fun _ => List.mem_of_mem_filter) rfl rfl
  | groupSynced id => exact tracked.groupSynced apart moved
  | handled receiptDiscarded outcomes =>
      simp only [SnapshotRun.step] at moved
      split at moved
      · rw [ofEntry_of_advance moved]
        exact tracked.ordinary apart rfl moved
      · cases moved
  | recordChanged key record =>
      cases moved
      simpa [UpdateEntry.ofLabel, takesSync] using tracked.frame apart rfl (fun _ => id) rfl rfl
  | leave requestId groupKey =>
      simp only [SnapshotRun.step] at moved
      split at moved <;> cases moved
      simpa [UpdateEntry.ofLabel, takesSync] using tracked.frame apart rfl (fun _ => id) rfl rfl
  | leaveHandled outcomes =>
      simp only [SnapshotRun.step] at moved
      split at moved
      next => cases moved
      next leave pending =>
      rw [ofEntry_of_advance moved]
      rcases tracked.apart with ⟨written, before⟩
      have taken : Tracked { state with
          groups := (state.groups.finishLeave account leave outcomes).1 } history :=
        tracked.frame
          ⟨written, before.settled, ⟨before.linked.groupSync, before.linked.awaited⟩,
            by simp [Handles, GroupSession.finishLeave], before.emitting.frame rfl rfl rfl rfl⟩
          rfl (fun _ => id) rfl rfl
      exact taken.ordinary apart rfl moved

end Tracked

/-! ## The law -/

theorem due_of_unknown (unknown : state.connection.session.groups ≠ .authoritative) :
    (state.connection.session.groups = .dirty ∧
        state.connection.queueEmpty.control = .refreshing) ∨
      (state.connection.session.groups = .pending ∧
        state.connection.queueEmpty.groupSync = true) := by
  cases groups : state.connection.session.groups with
  | authoritative => exact absurd groups unknown
  | dirty => exact Or.inl ⟨rfl, by simp [Connection.queueEmpty, SessionState.groupsDirty, groups]⟩
  | pending =>
      exact Or.inr ⟨rfl, by simp [Connection.queueEmpty, SessionState.groupsAuthoritative, groups]⟩

theorem tracked_of_run {labels : List SnapshotLabel}
    (runs : (updateMachine account).run labels = some (state, history)) :
    Tracked state history := by
  apply (updateMachine account).run_invariant Tracked.initial _ runs
  intro state history label next observed tracked stepped
  exact tracked.step stepped

/-- Whenever the groups are taken to be known, they are shown as they were when the last
content of a group was received or later, provided that no group sync was overtaken. -/
theorem updateLaw_of_run {labels : List SnapshotLabel} (fresh : ¬Overtaken history)
    (runs : (updateMachine account).run labels = some (state, history)) :
    UpdateLaw state history :=
  ⟨(tracked_of_run runs).shown fresh, due_of_unknown⟩

theorem lastEnded_unique {one other : EmitterId} (first : LastEnded one history)
    (second : LastEnded other history) : one = other := by
  induction history using List.reverseRecOn with
  | nil => exact absurd first (History.since_nil _ _)
  | append_singleton earlier entry induction =>
      rcases (History.since_concat _ _).mp first with rfl | ⟨firstBefore, goesOn⟩
      · rcases (History.since_concat _ _).mp second with same | ⟨-, notEnded⟩
        · exact UpdateEntry.ended.inj same
        · exact absurd rfl notEnded
      · rcases (History.since_concat _ _).mp second with rfl | ⟨secondBefore, -⟩
        · exact absurd rfl goesOn
        · exact induction firstBefore secondBefore

theorem mem_takesSync {label : SnapshotLabel} {id : EmitterId}
    (taken : .taken id ∈ state.takesSync label) :
    label = .groupSynced id ∧ state.takesSync label = [.taken id] ∧
      ∃ taskId, state.tasks.find? (·.id == id) = some ⟨taskId, .finished (.ok ())⟩ := by
  unfold takesSync at taken ⊢
  split at taken
  next taskId =>
    split at taken
    next found =>
      cases List.mem_singleton.mp taken
      exact ⟨rfl, by simp, _, found⟩
    next => cases taken
  next => cases taken

theorem not_taken_of_ofEffect {id other : EmitterId} {effect : EmissionEffect} :
    UpdateEntry.ofEffect other effect ≠ some (.taken id) := by
  cases effect with
  | queried | indexed => simp [UpdateEntry.ofEffect]
  | emitted event =>
      simp only [UpdateEntry.ofEffect]
      split <;> simp

theorem takes_of_step {label : SnapshotLabel} {observed : List UpdateEntry} {id : EmitterId}
    (tracked : Tracked state history)
    (stepped : state.updateStep account label = some (next, observed))
    (taken : .taken id ∈ observed) :
    observed = [.taken id] ∧ next.connection.session.groups = .authoritative ∧
      LastEnded id history ∧ history.count (.read id) = 1 := by
  rcases Option.map_eq_some_iff.mp stepped with ⟨⟨reached, entries⟩, moved, same⟩
  cases same
  have inTakes : .taken id ∈ state.takesSync label := by
    rcases List.mem_append.mp taken with before | written
    · rcases List.mem_append.mp before with received | inTakes
      · unfold UpdateEntry.ofLabel at received
        split at received
        · split at received <;> simp at received
        · cases received
      · exact inTakes
    · rcases List.mem_filterMap.mp written with ⟨entry, -, isTaken⟩
      cases entry with
      | wrote other effect => exact absurd isTaken not_taken_of_ofEffect
      | connection | presented | aborted => cases isTaken
  rcases mem_takesSync inTakes with ⟨rfl, takes, taskId, found⟩
  rcases tracked.apart with ⟨written, before⟩
  rcases before.emitting.emitters_of_task found with ⟨rfl, -, single, -, -⟩
  have finished := tracked.underway.tasks ⟨taskId, .finished (.ok ())⟩ (by simp [single])
  simp only [SnapshotRun.step, found] at moved
  split at moved
  · cases moved
  have noneWritten := ofEntry_of_advance moved
  rcases Option.map_eq_some_iff.mp moved with ⟨⟨connection, inner⟩, synced, same⟩
  cases same
  refine ⟨?_, ?_, finished.2 rfl, finished.1⟩
  · rw [takes, noneWritten]
    rfl
  · rw [connection_follow, Connection.step_groupSynced synced]
    rfl

theorem readSince_of_takes {label : SnapshotLabel} {observed : List UpdateEntry} {id : EmitterId}
    (tracked : Tracked state history)
    (stepped : state.updateStep account label = some (next, observed))
    (law : UpdateLaw next (history ++ observed)) (taken : .taken id ∈ observed) :
    observed = [.taken id] ∧ history.count (.read id) = 1 ∧ ReadSince id history := by
  rcases takes_of_step tracked stepped taken with ⟨rfl, authoritative, last, once⟩
  rcases law.shown authoritative with ⟨other, otherLast, read⟩
  have stillLast : LastEnded id (history ++ [.taken id]) :=
    last.append (by simp [UpdateEntry.isEnded])
  cases lastEnded_unique otherLast stillLast
  rcases (History.since_concat _ _).mp read with isRead | ⟨before, -⟩
  · cases isRead
  · exact ⟨rfl, once, before⟩

/-- The law holds all the time exactly if no group sync is overtaken: a content of a group that
comes between its read of the store and the taking of its result is lost. -/
theorem updateLaw_iff_not_overtaken {labels : List SnapshotLabel}
    (runs : (updateMachine account).run labels = some (state, history)) :
    (∀ part, part <+: labels → ∀ reached observed,
      (updateMachine account).run part = some (reached, observed) → UpdateLaw reached observed) ↔
      ¬Overtaken history := by
  constructor
  · intro throughout
    induction labels using List.reverseRecOn generalizing state history with
    | nil =>
        cases runs
        rintro ⟨before, between, after, id, whole, -⟩
        simp at whole
    | append_singleton earlier label induction =>
        have law := throughout _ List.prefix_rfl _ _ runs
        rcases (Machine.runFrom_append_eq_some _).mp runs with
          ⟨middle, first, later, begins, continues, rfl⟩
        rcases (Machine.runFrom_cons_eq_some _).mp continues with
          ⟨reached, observed, rest, stepped, ends, rfl⟩
        cases ends
        rw [List.append_nil] at law ⊢
        have before := induction begins fun part isPart =>
          throughout part (isPart.trans (List.prefix_append _ _))
        intro overtaken
        by_cases taken : ∃ id, .taken id ∈ observed
        · rcases taken with ⟨id, taken⟩
          rcases readSince_of_takes (tracked_of_run begins) stepped law taken with
            ⟨rfl, once, read⟩
          rcases overtaken_concat overtaken with already | ⟨earlier, between, whole, content⟩
          · exact before already
          · exact no_groupContent_of_readSince once read whole content
        · exact before (overtaken_of_untaken (by simpa using taken) overtaken)
  · rintro fresh part ⟨rest, rfl⟩ reached observed partRuns
    rcases (Machine.runFrom_append_eq_some _).mp runs with ⟨middle, first, later, begins, -, rfl⟩
    cases begins.symm.trans partRuns
    exact updateLaw_of_run (fun overtaken => fresh (overtaken.append _)) partRuns

/-! A group sync, and a message of a group that comes before the store is read, while the
answer of the store is under way or after it. -/

def messageArrives : List SnapshotLabel :=
  [.connection .round, .connection (.received (some (.content (groupContent 1))))]

def syncEnds : List SnapshotLabel :=
  [.task 1 (.proceed none), .task 1 (.proceed none), .task 1 (.proceed none),
    .connection .round, .groupSynced 1]

def messageBeforeRead : List SnapshotLabel :=
  [.connection .restart] ++ connectWithSnapshot ++ messageArrives ++
    [.task 1 (.synchronized (.ok ())), .task 1 (.queried (.ok storedSevens)),
      .task 1 .groupsRead] ++ syncEnds

def messageAfterRead : List SnapshotLabel :=
  [.connection .restart] ++ connectWithSnapshot ++
    [.task 1 (.synchronized (.ok ())), .task 1 (.queried (.ok storedSevens)),
      .task 1 .groupsRead] ++ messageArrives ++ syncEnds

def messageBeforeAnswer : List SnapshotLabel :=
  [.connection .restart] ++ connectWithSnapshot ++
    [.task 1 (.synchronized (.ok ())), .task 1 (.queried (.ok storedSevens))] ++
    messageArrives ++ [.task 1 .groupsRead] ++ syncEnds

theorem updateLaw_of_messageBeforeRead :
    ∃ state history,
      (updateMachine GroupSession.ownAccount).run messageBeforeRead = some (state, history) ∧
      state.connection.session.groups = .authoritative ∧
      history = [.read 0, .groupContent, .read 1, .ended 1, .taken 1] ∧
      UpdateLaw state history := by
  have reached : ((updateMachine GroupSession.ownAccount).run messageBeforeRead).any (fun reached =>
      decide (reached.1.connection.session.groups = .authoritative) &&
        decide (reached.2 = [.read 0, .groupContent, .read 1, .ended 1, .taken 1])) = true := by
    decide +kernel
  rcases (Option.any_eq_true _ _).mp reached with ⟨⟨state, history⟩, runs, facts⟩
  simp only [Bool.and_eq_true, decide_eq_true_eq] at facts
  rcases facts with ⟨authoritative, rfl⟩
  have read : ReadSince 1 [.read 0, .groupContent, .read 1, .ended 1] :=
    ⟨[.read 0, .groupContent], .read 1, [.ended 1], rfl, rfl, by simp⟩
  have fresh : ¬Overtaken ([.read 0, .groupContent, .read 1, .ended 1] ++ [.taken 1]) := by
    intro overtaken
    rcases overtaken_concat overtaken with
      ⟨before, between, after, id, whole, -⟩ | ⟨before, between, whole, content⟩
    · have taken : UpdateEntry.taken id ∈ [.read 0, .groupContent, .read 1, .ended 1] := by
        simp [whole]
      simp at taken
    · exact no_groupContent_of_readSince rfl read whole content
  exact ⟨state, _, runs, authoritative, rfl,
    (updateLaw_iff_not_overtaken runs).mpr fresh _ List.prefix_rfl _ _ runs⟩

/-- The groups are known at the end of the run and no further snapshot is due, though the store
was read before the content came. -/
def LosesUpdate (labels : List SnapshotLabel) : Prop :=
  ∃ state history, (updateMachine GroupSession.ownAccount).run labels = some (state, history) ∧
    state.connection.session.groups = .authoritative ∧
    history = [.read 0, .read 1, .groupContent, .ended 1, .taken 1] ∧ ¬UpdateLaw state history

theorem losesUpdate_of_check {labels : List SnapshotLabel}
    (reached : ((updateMachine GroupSession.ownAccount).run labels).any (fun reached =>
      decide (reached.1.connection.session.groups = .authoritative) &&
        decide (reached.2 = [.read 0, .read 1, .groupContent, .ended 1, .taken 1])) = true) :
    LosesUpdate labels := by
  rcases (Option.any_eq_true _ _).mp reached with ⟨⟨state, history⟩, runs, facts⟩
  simp only [Bool.and_eq_true, decide_eq_true_eq] at facts
  rcases facts with ⟨authoritative, rfl⟩
  refine ⟨state, _, runs, authoritative, rfl, fun law => ?_⟩
  rcases law.shown authoritative with ⟨id, -, read⟩
  have split : ReadSince id ([.read 0, .read 1] ++ [.groupContent, .ended 1, .taken 1]) := read
  have ⟨_, unread⟩ := (History.since_append_of_no_start _ (by simp)).mp split
  exact unread .groupContent (by simp) rfl

/-- The message comes after the read and before the result, whether or not the answer of the
store has been delivered. -/
theorem update_lost : LosesUpdate messageAfterRead ∧ LosesUpdate messageBeforeAnswer :=
  ⟨losesUpdate_of_check (by decide +kernel), losesUpdate_of_check (by decide +kernel)⟩

end SnapshotRun

end SignalPurple
