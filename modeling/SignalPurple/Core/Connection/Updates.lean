import SignalPurple.Core.Connection.SnapshotLaw
import SignalPurple.Foundation.History

/-! # Snapshots and later updates

A content of a group may come with a change of the group. A snapshot that was read before the
content does not show it, so another one is due. The session remembers this only for groups
that it takes to be known: it marks them dirty. While a group sync is in flight the groups are
unknown, and its result makes them known whatever was received since the store was read.
-/

namespace SignalPurple

inductive UpdateEntry where
  /-- The actor received a content with a group context. -/
  | groupContent
  /-- The store has read its groups for an emission. -/
  | read (id : EmitterId)
  /-- The end of an authoritative snapshot was emitted. -/
  | ended (id : EmitterId)
  /-- `run` took the result of a group sync that succeeded. -/
  | taken (id : EmitterId)
  deriving DecidableEq

namespace UpdateEntry

def isEnded : UpdateEntry → Bool
  | .ended _ => true
  | .groupContent | .read _ | .taken _ => false

def ofEffect (id : EmitterId) : EmissionEffect → Option UpdateEntry
  | .queried => some (.read id)
  | .emitted event =>
      if event.kind = .groupSyncEnd ∧ event.value ≠ 0 then some (.ended id) else none
  | .indexed _ _ => none

def ofEntry : SnapshotEntry → Option UpdateEntry
  | .wrote id effect => ofEffect id effect
  | .connection _ | .presented _ | .aborted _ => none

def ofLabel : SnapshotLabel → List UpdateEntry
  | .connection (.received (some (.content content))) =>
      if contentHasGroupContext content.body then [.groupContent] else []
  | _ => []

end UpdateEntry

namespace SnapshotRun

def takesSync (state : SnapshotRun) : SnapshotLabel → List UpdateEntry
  | .groupSynced id =>
      match state.tasks.find? (·.id == id) with
      | some { emission := .finished (.ok ()), .. } => [.taken id]
      | _ => []
  | _ => []

variable (account : Account)

def updateStep (state : SnapshotRun) (label : SnapshotLabel) :
    Option (SnapshotRun × List UpdateEntry) :=
  (state.step account label).map fun reached =>
    (reached.1, UpdateEntry.ofLabel label ++ state.takesSync label ++
      reached.2.filterMap UpdateEntry.ofEntry)

/-- The runs of a connection with its group snapshots, as far as updates are concerned. -/
def updateMachine : Machine SnapshotRun SnapshotLabel UpdateEntry where
  initial := {}
  step := updateStep account

/-- The last authoritative snapshot that was emitted. -/
def LastEnded (id : EmitterId) (history : List UpdateEntry) : Prop :=
  History.Since (· = .ended id) (·.isEnded = true) history

/-- The store was read after the last content of a group. -/
def ReadSince (id : EmitterId) (history : List UpdateEntry) : Prop :=
  History.Since (· = .read id) (· = .groupContent) history

structure UpdateLaw (state : SnapshotRun) (history : List UpdateEntry) : Prop where
  shown : state.connection.session.groups = .authoritative →
    ∃ id, LastEnded id history ∧ ReadSince id history
  /-- Otherwise the next time that the queue is empty a snapshot is begun, if none is under
  way. -/
  due : state.connection.session.groups ≠ .authoritative →
    (state.connection.session.groups = .dirty ∧
        state.connection.queueEmpty.control = .refreshing) ∨
      (state.connection.session.groups = .pending ∧ state.connection.queueEmpty.groupSync = true)

/-- A content of a group was received after the store was read for a group sync, and before
the result of the group sync was taken. -/
def Overtaken (history : List UpdateEntry) : Prop :=
  ∃ before between after id, history = before ++ .read id :: between ++ .taken id :: after ∧
    .groupContent ∈ between

end SnapshotRun

/-! ## The emissions -/

/-- How far an emission has come. `Unread` tells that the store was not read for it, `Read` that
it was as it should be, `Ended` that nothing authoritative ended after it. -/
def Emission.Progress (authority : Bool) (Unread Read Ended : Prop) : Emission → Prop
  | .synchronizing => authority = true ∧ Unread
  | .reading authoritative => authoritative = authority ∧ Unread
  | .answered authoritative _ => authoritative = authority ∧ Read
  | .emitting authoritative _ _ => authoritative = authority ∧ Read
  | .finished (.ok ()) => Read ∧ (authority = true → Ended)
  | .finished (.error _) => True

namespace Emission

variable {account : Account} {departed : DepartedGroups} {authority : Bool}
  {Unread Read Ended Unread' Read' Ended' : Prop} {emission next : Emission} {label : EmissionLabel}
  {effects : List EmissionEffect}

theorem Progress.mono (progress : emission.Progress authority Unread Read Ended)
    (unread : Unread → Unread') (read : Read → Read') (ended : Ended → Ended') :
    emission.Progress authority Unread' Read' Ended' := by
  cases emission with
  | synchronizing | reading => exact ⟨progress.1, unread progress.2⟩
  | answered | emitting => exact ⟨progress.1, read progress.2⟩
  | finished result =>
      cases result with
      | ok => exact ⟨read progress.1, fun isAuthority => ended (progress.2 isAuthority)⟩
      | error => trivial

/-- What a step observes: the read of the store, the end of the snapshot or nothing. -/
inductive Writes (id : EmitterId) (authority : Bool) (Unread Read Ended : Prop)
    (next : Emission) : List UpdateEntry → Prop
  | nothing (progress : next.Progress authority Unread Read Ended) :
      Writes id authority Unread Read Ended next []
  | read (unread : Unread) (progress : next.Progress authority False True Ended) :
      Writes id authority Unread Read Ended next [.read id]
  | ended (isAuthority : authority = true) (progress : next.Progress authority False Read True) :
      Writes id authority Unread Read Ended next [.ended id]

theorem ofEffect_record (id : EmitterId) (record : SnapshotRecord) :
    UpdateEntry.ofEffect id (.emitted record.event) = none := by
  rcases record.kind_event with kind | kind <;> simp [UpdateEntry.ofEffect, kind]

theorem writes_of_proceed {avatar : Option (String × Bytes)} (id : EmitterId)
    (progress : emission.Progress authority Unread Read Ended)
    (stepped : emission.proceed account departed avatar = some (next, effects)) :
    Writes id authority Unread Read Ended next (effects.filterMap (UpdateEntry.ofEffect id)) := by
  unfold proceed at stepped
  split at stepped
  next authoritative record records groups =>
    cases stepped
    rw [List.filterMap_cons_none (ofEffect_record id record)]
    exact .nothing progress
  next authoritative key group groups =>
    rcases Machine.reached_of_some stepped with ⟨rfl, rfl⟩
    simp only [emitGroup]
    split
    · exact .nothing progress
    · exact .nothing progress
  next authoritative =>
    cases stepped
    rcases progress with ⟨rfl, isRead⟩
    cases authoritative with
    | false => exact .nothing ⟨isRead, by simp⟩
    | true => exact .ended rfl ⟨isRead, fun _ => trivial⟩
  all_goals cases stepped

theorem writes_of_step (id : EmitterId) (progress : emission.Progress authority Unread Read Ended)
    (stepped : emission.step account departed label = some (next, effects)) :
    Writes id authority Unread Read Ended next (effects.filterMap (UpdateEntry.ofEffect id)) := by
  cases label with
  | synchronized result =>
      simp only [step] at stepped
      split at stepped <;> cases stepped
      · exact .nothing ⟨progress.1.symm, progress.2⟩
      · exact .nothing trivial
  | queried result =>
      simp only [step] at stepped
      split at stepped <;> cases stepped
      exact .read progress.2 ⟨progress.1, trivial⟩
  | groupsRead =>
      simp only [step] at stepped
      split at stepped <;> cases stepped
      · exact .nothing progress
      · exact .nothing trivial
  | proceed avatar => exact writes_of_proceed id progress stepped

end Emission

/-! ## The steps of the connection -/

namespace Connection

variable {connection next : Connection} {label : ConnectionLabel}
  {entries : List ConnectionEntry}

theorem step_receivedContent {content : Content}
    (stepped : connection.step (.received (some (.content content))) = some (next, entries)) :
    connection.control = .selecting ∧ next = connection.receivedContent content := by
  simp only [step] at stepped
  split at stepped
  · cases control : connection.control <;> simp [advance, control, received] at stepped
    exact ⟨rfl, stepped.2.1.symm⟩
  · cases stepped

theorem step_groupSynced {result : Except String Unit}
    (stepped : connection.step (.groupSynced result) = some (next, entries)) :
    next = (connection.groupSynced result).1 := by
  simp only [step] at stepped
  split at stepped
  · cases control : connection.control <;> simp [advance, control] at stepped
    rw [stepped.2]
  · cases stepped

theorem authoritative_receivedContent {content : Content}
    (authoritative : (connection.receivedContent content).session.groups = .authoritative) :
    connection.session.groups = .authoritative ∧ contentHasGroupContext content.body = false := by
  simp only [receivedContent, SessionState.noteGroupContent] at authoritative
  split at authoritative
  next => cases authoritative
  next kept =>
    refine ⟨authoritative, ?_⟩
    simpa [authoritative] using kept

theorem authoritative_of_step (stepped : connection.step label = some (next, entries))
    (authoritative : next.session.groups = .authoritative) :
    label = .refreshed (.ok ()) ∨ label = .groupSynced (.ok ()) ∨
      connection.session.groups = .authoritative := by
  cases transition_of_step stepped with
  | refreshed => exact Or.inl rfl
  | groupSynced => exact Or.inr (Or.inl rfl)
  | restart =>
      refine Or.inr (Or.inr ?_)
      unfold restart at authoritative
      split at authoritative <;> exact authoritative
  | receivedContent => exact Or.inr (Or.inr (authoritative_receivedContent authoritative).1)
  | receiveFailed | refreshFailed | reconnect | groupSyncFailed => cases authoritative
  | _ => exact Or.inr (Or.inr authoritative)

end Connection

/-! ## The emissions of a run -/

namespace SnapshotRun

variable {account : Account} {state next : SnapshotRun} {history more : List UpdateEntry}
  {entries : List SnapshotEntry}

theorem mem_tasks_abortGroupSync {task : GroupEmitter}
    (member : task ∈ state.abortGroupSync.1.tasks) : task ∈ state.tasks := by
  unfold abortGroupSync at member
  split at member
  · exact member
  · exact List.mem_of_mem_filter member

@[simp] theorem nextEmitter_abortGroupSync (state : SnapshotRun) :
    state.abortGroupSync.1.nextEmitter = state.nextEmitter := by
  unfold abortGroupSync
  split <;> rfl

theorem nextEmitter_follow (state : SnapshotRun) (reached : Connection) :
    state.nextEmitter ≤ (state.follow reached).1.nextEmitter := by
  simp only [follow]
  split <;> split <;> split <;> split <;>
    simp [awaitSnapshot, spawnGroupSync, dropSnapshot]
  all_goals exact Nat.le_add_right _ 2

theorem mem_tasks_follow {reached : Connection} {task : GroupEmitter}
    (member : task ∈ (state.follow reached).1.tasks) :
    task ∈ state.tasks ∨ task = { id := state.nextEmitter, emission := .synchronizing } := by
  have spawned : ∀ before : SnapshotRun, before.nextEmitter = state.nextEmitter →
      task ∈ before.spawnGroupSync.tasks → task ∈ before.tasks ∨
        task = { id := state.nextEmitter, emission := .synchronizing } := by
    intro before sameEmitter isTask
    rcases List.mem_append.mp isTask with known | isNew
    · exact Or.inl known
    · exact Or.inr (by rw [List.mem_singleton.mp isNew, sameEmitter])
  simp only [follow] at member
  cases synced : reached.groupSync with
  | false =>
      refine Or.inl (mem_tasks_abortGroupSync ?_)
      simp only [synced, Bool.false_eq_true, if_false, Bool.false_and] at member
      split at member <;> split at member <;> exact member
  | true =>
      simp only [synced, if_true, Bool.true_and] at member
      split at member <;> split at member <;> split at member <;>
        first
        | exact spawned _ rfl member
        | exact Or.inl member

theorem awaited_follow {reached : Connection} {emitter : GroupEmitter}
    (awaited : (state.follow reached).1.awaited = some emitter) :
    state.awaited = some emitter ∧ reached.control.awaitsSnapshot = true ∨
      emitter.emission = .reading (reached.control == .refreshing) := by
  have kept : (if reached.groupSync then (state, []) else state.abortGroupSync).1.awaited =
      state.awaited := by
    split
    · rfl
    · exact awaited_abortGroupSync state
  simp only [follow] at awaited
  cases awaits : reached.control.awaitsSnapshot with
  | false =>
      simp only [awaits, Bool.false_eq_true, if_false, Bool.false_and] at awaited
      split at awaited <;> cases awaited
  | true =>
      simp only [awaits, if_true, Bool.true_and] at awaited
      split at awaited
      · cases awaited
        exact Or.inr rfl
      · split at awaited
        · exact Or.inl ⟨kept ▸ awaited, rfl⟩
        · exact Or.inl ⟨kept ▸ awaited, rfl⟩

/-- The store is read once for an emission, and for one that `run` awaits it was read since the
last content. -/
structure Underway (state : SnapshotRun) (history : List UpdateEntry) : Prop where
  given : ∀ id, .read id ∈ history → id < state.nextEmitter
  tasks : ∀ task ∈ state.tasks,
    task.emission.Progress true (.read task.id ∉ history) (history.count (.read task.id) = 1)
      (LastEnded task.id history)
  awaited : ∀ emitter, state.awaited = some emitter →
    emitter.emission.Progress (state.connection.control == .refreshing) True
      (ReadSince emitter.id history) (LastEnded emitter.id history)

theorem Underway.initial : Underway {} [] := ⟨by simp, by simp, by simp⟩

theorem Underway.follow (underway : state.Underway history) {reached : Connection}
    (sameControl : state.awaited.isSome = true → reached.control.awaitsSnapshot = true →
      reached.control = state.connection.control)
    (noneRead : ∀ id, .read id ∉ more) (noneEnded : ∀ entry ∈ more, entry.isEnded = false)
    (unawaited : .groupContent ∈ more → state.awaited = none) :
    (state.follow reached).1.Underway (history ++ more) := by
  have reads : ∀ id, .read id ∈ history ++ more ↔ .read id ∈ history := by
    simp [noneRead]
  have lastEnded : ∀ id, LastEnded id history → LastEnded id (history ++ more) :=
    fun id last => last.append (by simpa using noneEnded)
  refine ⟨?_, ?_, ?_⟩
  · intro id isRead
    exact (underway.given id ((reads id).mp isRead)).trans_le (nextEmitter_follow state reached)
  · intro task member
    rcases mem_tasks_follow member with known | rfl
    · refine (underway.tasks task known).mono (mt (reads task.id).mp) (fun once => ?_)
        (lastEnded task.id)
      rw [List.count_append, once, List.count_eq_zero_of_not_mem (noneRead task.id)]
    · refine ⟨rfl, fun isRead => ?_⟩
      exact Nat.lt_irrefl _ (underway.given _ ((reads _).mp isRead))
  · intro emitter awaited
    rcases awaited_follow awaited with ⟨before, awaits⟩ | isNew
    · have control := sameControl (by simp [before]) awaits
      rw [connection_follow, control]
      refine (underway.awaited emitter before).mono id (fun read => read.append ?_)
        (lastEnded emitter.id)
      rintro entry member rfl
      rw [unawaited member] at before
      cases before
    · rw [isNew]
      exact ⟨rfl, trivial⟩

end SnapshotRun

end SignalPurple
