import SignalPurple.Core.Connection.Snapshots

/-! # Group snapshots do not interleave

The live emissions of a connection follow the discipline of bracketed histories: there is
at most one, it opens its bracket with `GROUP_SYNC_BEGIN` and closes it with
`GROUP_SYNC_END`, and the events of a group belong outside of the brackets. The session
is what makes this so.
-/

namespace SignalPurple

def snapshotBrackets : Brackets SnapshotEntry EmitterId where
  opens
    | .wrote id (.emitted event) => if event.snapshotRole = .begins then some id else none
    | _ => none
  closes entry := entry.events.any (·.snapshotRole == .ends)
  isOutside entry := entry.events.any (·.snapshotRole == .ofGroup)
  author
    | .wrote id _ => some id
    | _ => none
  cutOff
    | .aborted id => some id
    | _ => none
  author_of_opens := by
    intro entry producer opens
    split at opens
    · split at opens
      · exact opens
      · cases opens
    · cases opens
  cutOff_of_author := by
    intro entry producer author
    split at author
    · rfl
    · cases author

namespace SnapshotEntry

/-- An entry of the actor itself that delimits no snapshot, and speaks of a group only
if `inGroup`. -/
structure Unmarked (inGroup : Prop) (entry : SnapshotEntry) : Prop where
  events : ∀ event ∈ entry.events, event.Unmarked inGroup
  author : snapshotBrackets.author entry = none
  cutOff : snapshotBrackets.cutOff entry = none

variable {inGroup : Prop} {entry : SnapshotEntry}

theorem Unmarked.foreign (unmarked : entry.Unmarked inGroup) :
    snapshotBrackets.Foreign entry := by
  refine ⟨?_, ?_, unmarked.author, unmarked.cutOff⟩
  · cases opened : snapshotBrackets.opens entry with
    | none => rfl
    | some id =>
        have author := snapshotBrackets.author_of_opens opened
        rw [unmarked.author] at author
        cases author
  · simp only [snapshotBrackets, List.any_eq_false, beq_iff_eq]
    intro event member ends
    rcases unmarked.events event member with other | ⟨ofGroup, _⟩
    · simp [ends] at other
    · simp [ends] at ofGroup

theorem Unmarked.of_isOutside (unmarked : entry.Unmarked inGroup)
    (isOutside : snapshotBrackets.isOutside entry = true) : inGroup := by
  simp only [snapshotBrackets, List.any_eq_true, beq_iff_eq] at isOutside
  rcases isOutside with ⟨event, member, ofGroup⟩
  rcases unmarked.events event member with other | ⟨_, holds⟩
  · simp [ofGroup] at other
  · exact holds

theorem unmarked_presented {event : Event} (unmarked : event.Unmarked inGroup) :
    (SnapshotEntry.presented event).Unmarked inGroup := by
  refine ⟨?_, rfl, rfl⟩
  intro other member
  rw [List.mem_singleton.mp member]
  exact unmarked

theorem unmarked_connection {inner : ConnectionEntry} (silent : inner.Silent) :
    (SnapshotEntry.connection inner).Unmarked inGroup :=
  ⟨fun event member => Or.inl (silent event member), rfl, rfl⟩

end SnapshotEntry

namespace SnapshotRun

variable {state next : SnapshotRun} {history entries : List SnapshotEntry} {quiet later : Prop}

def emitters (state : SnapshotRun) : List GroupEmitter := state.awaited.toList ++ state.tasks

def live (state : SnapshotRun) : List (EmitterId × Brackets.Stage) :=
  state.emitters.map fun emitter => (emitter.id, emitter.emission.stage)

/-- Only emissions delimit snapshots. -/
def OnlyEmittersMark (history : List SnapshotEntry) : Prop :=
  ∀ entry ∈ history, ∀ event ∈ entry.events,
    event.snapshotRole = .begins ∨ event.snapshotRole = .ends →
      ∃ id, entry = .wrote id (.emitted event)

/-- The emissions of a state, whatever the connection is at. -/
structure Emitting (state : SnapshotRun) (quiet : Prop) (history : List SnapshotEntry) :
    Prop where
  owned : ∀ task ∈ state.tasks, state.groupSync = some task.id
  used : ∀ id, .aborted id ∈ history → id < state.nextEmitter
  given : ∀ emitter ∈ state.emitters, emitter.id < state.nextEmitter
  marks : OnlyEmittersMark history
  disciplined : snapshotBrackets.Disciplined state.live quiet history

theorem OnlyEmittersMark.append (marks : OnlyEmittersMark history)
    (more : OnlyEmittersMark entries) : OnlyEmittersMark (history ++ entries) := by
  intro entry member
  rcases List.mem_append.mp member with earlier | new
  · exact marks entry earlier
  · exact more entry new

theorem onlyEmittersMark_of_unmarked {inGroup : Prop}
    (unmarked : ∀ entry ∈ entries, entry.Unmarked inGroup) : OnlyEmittersMark entries := by
  intro entry member event isEvent delimits
  rcases (unmarked entry member).events event isEvent with other | ⟨ofGroup, _⟩
  · simp [other] at delimits
  · simp [ofGroup] at delimits

theorem onlyEmittersMark_abortion (emitter : GroupEmitter) :
    OnlyEmittersMark (abortion emitter) := by
  intro entry member event isEvent
  unfold abortion at member
  split at member
  · rw [List.mem_singleton.mp member] at isEvent
    cases isEvent
  · cases member

theorem disciplined_abortion {emitter : GroupEmitter}
    (disciplined : snapshotBrackets.Disciplined [(emitter.id, emitter.emission.stage)] quiet
      history) (held : quiet) :
    snapshotBrackets.Disciplined [] quiet (history ++ abortion emitter) := by
  unfold abortion
  split
  next => exact disciplined.abort rfl rfl rfl rfl rfl held
  next through =>
    rw [List.append_nil]
    refine disciplined.retire ?_ fun _ => id
    cases emission : emitter.emission with
    | finished result => cases result <;> simp [Emission.stage]
    | _ => simp [emission, Emission.isActive] at through

theorem within_of_isRecord {id : EmitterId} {effect : EmissionEffect}
    (record : Emission.IsRecord effect) :
    snapshotBrackets.Within id (SnapshotEntry.wrote id effect) := by
  cases record with
  | queried => exact ⟨rfl, rfl, rfl, rfl⟩
  | indexed identifier key => exact ⟨rfl, rfl, rfl, rfl⟩
  | @emitted event kind =>
      have role : event.snapshotRole = .other := by
        rcases kind with kind | kind | kind <;> simp [Event.snapshotRole, kind]
      constructor <;> simp [snapshotBrackets, SnapshotEntry.events, role]

theorem disciplined_emit {id : EmitterId} {emission reached : Emission}
    {effects : List EmissionEffect} (transition : emission.Transition reached effects)
    (disciplined : snapshotBrackets.Disciplined [(id, emission.stage)] quiet history) :
    snapshotBrackets.Disciplined [(id, reached.stage)] quiet
      (history ++ effects.map (.wrote id)) := by
  cases transition with
  | start before after =>
      rw [before] at disciplined
      rw [after]
      exact disciplined.opening rfl rfl
  | record same records =>
      rw [same]
      apply disciplined.write List.mem_cons_self
      intro entry member
      rcases List.mem_map.mp member with ⟨effect, inside, rfl⟩
      exact within_of_isRecord (records effect inside)
  | finish before after authoritative =>
      rw [before] at disciplined
      rw [after]
      exact disciplined.closing rfl rfl rfl rfl

namespace Emitting

theorem initial (quiet : Prop) : Emitting {} quiet [] :=
  ⟨by simp, by simp, by simp [emitters], by simp [OnlyEmittersMark],
    Brackets.Disciplined.initial quiet⟩

theorem relax (emitting : Emitting state quiet history) (weaker : quiet → later) :
    Emitting state later history :=
  ⟨emitting.owned, emitting.used, emitting.given, emitting.marks,
    emitting.disciplined.relax weaker⟩

theorem frame (emitting : Emitting state quiet history) (awaited : next.awaited = state.awaited)
    (tasks : next.tasks = state.tasks) (groupSync : next.groupSync = state.groupSync)
    (nextEmitter : next.nextEmitter = state.nextEmitter) : Emitting next quiet history := by
  have sameEmitters : next.emitters = state.emitters := by
    simp only [emitters, awaited, tasks]
  refine ⟨?_, ?_, ?_, emitting.marks, ?_⟩
  · rw [tasks, groupSync]
    exact emitting.owned
  · rw [nextEmitter]
    exact emitting.used
  · rw [sameEmitters, nextEmitter]
    exact emitting.given
  · rw [live, sameEmitters]
    exact emitting.disciplined

theorem present {inGroup : Prop} (emitting : Emitting state quiet history)
    (unmarked : ∀ entry ∈ entries, entry.Unmarked inGroup)
    (outside : inGroup → state.live = [] ∧ ¬ quiet) :
    Emitting state quiet (history ++ entries) := by
  refine ⟨emitting.owned, ?_, emitting.given,
    emitting.marks.append (onlyEmittersMark_of_unmarked unmarked), ?_⟩
  · intro id member
    rcases List.mem_append.mp member with earlier | new
    · exact emitting.used id earlier
    · have uncut := (unmarked _ new).cutOff
      cases uncut
  · apply emitting.disciplined.foreign
    · exact fun entry member => (unmarked entry member).foreign
    · exact fun entry member isOutside => outside ((unmarked entry member).of_isOutside isOutside)

theorem tasks_cases (emitting : Emitting state quiet history) :
    state.tasks = [] ∨ ∃ task, state.tasks = [task] ∧ state.awaited = none ∧
      state.groupSync = some task.id := by
  have single : state.awaited.toList.length + state.tasks.length ≤ 1 := by
    simpa [live, emitters] using emitting.disciplined.single
  rcases tasks : state.tasks with _ | ⟨task, _ | ⟨other, rest⟩⟩
  · exact Or.inl rfl
  · refine Or.inr ⟨task, rfl, ?_, emitting.owned task (by simp [tasks])⟩
    cases awaited : state.awaited with
    | none => rfl
    | some emitter => simp [awaited, tasks] at single
  · simp only [tasks, List.length_cons] at single
    omega

theorem emitters_of_awaited (emitting : Emitting state quiet history) {emitter : GroupEmitter}
    (awaited : state.awaited = some emitter) : state.emitters = [emitter] ∧ state.tasks = [] := by
  have noTasks : state.tasks = [] := by
    rcases emitting.tasks_cases with none | ⟨task, _, unawaited, _⟩
    · exact none
    · rw [awaited] at unawaited
      cases unawaited
  exact ⟨by simp [emitters, awaited, noTasks], noTasks⟩

theorem emitters_of_task (emitting : Emitting state quiet history) {emitter : GroupEmitter}
    {id : EmitterId} (found : state.tasks.find? (·.id == id) = some emitter) :
    emitter.id = id ∧ state.emitters = [emitter] ∧ state.tasks = [emitter] ∧
      state.awaited = none ∧ state.groupSync = some id := by
  have member := List.mem_of_find?_eq_some found
  have isId : emitter.id = id := by simpa using List.find?_some found
  rcases emitting.tasks_cases with none | ⟨task, single, unawaited, owned⟩
  · simp [none] at member
  · have same : emitter = task := by simpa [single] using member
    subst same
    exact ⟨isId, by simp [emitters, unawaited, single], single, unawaited, isId ▸ owned⟩

theorem cut {emitter : GroupEmitter} (emitting : Emitting state quiet history)
    (before : state.emitters = [emitter]) (after : next.emitters = [])
    (nextEmitter : next.nextEmitter = state.nextEmitter) (held : quiet) :
    Emitting next quiet (history ++ abortion emitter) := by
  have noTasks : next.tasks = [] := (List.append_eq_nil_iff.mp after).2
  refine ⟨by simp [noTasks], ?_, by simp [after], ?_, ?_⟩
  · intro id member
    rw [nextEmitter]
    rcases List.mem_append.mp member with earlier | new
    · exact emitting.used id earlier
    · unfold abortion at new
      split at new
      · cases List.mem_singleton.mp new
        exact emitting.given emitter (by simp [before])
      · cases new
  · exact emitting.marks.append (onlyEmittersMark_abortion emitter)
  · have disciplined := emitting.disciplined
    rw [live, before] at disciplined
    rw [live, after]
    exact disciplined_abortion disciplined held

theorem not_isCutOff (emitting : Emitting state quiet history) :
    ¬ snapshotBrackets.IsCutOff state.nextEmitter history := by
  rintro ⟨entry, member, cutOff⟩
  simp only [snapshotBrackets] at cutOff
  split at cutOff
  · cases cutOff
    exact Nat.lt_irrefl _ (emitting.used _ member)
  · cases cutOff

theorem abortGroupSync (emitting : Emitting state quiet history)
    (held : state.groupSync.isSome = true → quiet) :
    Emitting state.abortGroupSync.1 quiet (history ++ state.abortGroupSync.2) := by
  unfold SnapshotRun.abortGroupSync
  split
  next =>
    rw [List.append_nil]
    exact emitting
  next id handle =>
    rcases emitting.tasks_cases with none | ⟨task, single, unawaited, owned⟩
    · simp only [none, List.filter_nil, List.flatMap_nil, List.append_nil]
      refine ⟨by simp, emitting.used, ?_, emitting.marks, ?_⟩
      · simpa [emitters, none] using emitting.given
      · simpa [live, emitters, none] using emitting.disciplined
    · have isTask : task.id = id := by simpa [handle] using owned.symm
      subst isTask
      have alone : state.emitters = [task] := by simp [emitters, single, unawaited]
      have ended : (state.tasks.filter (·.id == task.id)).flatMap abortion = abortion task := by
        simp [single]
      rw [ended]
      refine emitting.cut alone ?_ rfl (held (by simp [handle]))
      simp [emitters, single, unawaited]

theorem dropSnapshot (emitting : Emitting state quiet history)
    (held : state.awaited.isSome = true → quiet) :
    Emitting state.dropSnapshot.1 quiet (history ++ state.dropSnapshot.2) := by
  simp only [SnapshotRun.dropSnapshot]
  cases awaited : state.awaited with
  | none =>
      simp only [Option.toList_none, List.flatMap_nil, List.append_nil]
      exact emitting.frame awaited.symm rfl rfl rfl
  | some emitter =>
      obtain ⟨alone, noTasks⟩ := emitting.emitters_of_awaited awaited
      simp only [Option.toList_some, List.flatMap_cons, List.flatMap_nil, List.append_nil]
      refine emitting.cut alone ?_ rfl (held (by simp [awaited]))
      simp [emitters, noTasks]

theorem spawnGroupSync (emitting : Emitting state quiet history)
    (unawaited : state.awaited = none) (noTasks : state.tasks = []) :
    Emitting state.spawnGroupSync quiet history := by
  have nothing : state.live = [] := by simp [live, emitters, unawaited, noTasks]
  refine ⟨by simp [SnapshotRun.spawnGroupSync, noTasks], ?_, ?_, emitting.marks, ?_⟩
  · exact fun id member => Nat.lt_succ_of_lt (emitting.used id member)
  · simp [SnapshotRun.spawnGroupSync, emitters, unawaited, noTasks]
  · have disciplined := emitting.disciplined
    rw [nothing] at disciplined
    simpa [SnapshotRun.spawnGroupSync, live, emitters, unawaited, noTasks, Emission.stage] using
      disciplined.start emitting.not_isCutOff

theorem awaitSnapshot (emitting : Emitting state quiet history) (authoritative : Bool)
    (unawaited : state.awaited = none) (noTasks : state.tasks = []) :
    Emitting (state.awaitSnapshot authoritative) quiet history := by
  have nothing : state.live = [] := by simp [live, emitters, unawaited, noTasks]
  refine ⟨by simp [SnapshotRun.awaitSnapshot, noTasks], ?_, ?_, emitting.marks, ?_⟩
  · exact fun id member => Nat.lt_succ_of_lt (emitting.used id member)
  · simp [SnapshotRun.awaitSnapshot, emitters, noTasks]
  · have disciplined := emitting.disciplined
    rw [nothing] at disciplined
    simpa [SnapshotRun.awaitSnapshot, live, emitters, noTasks, Emission.stage] using
      disciplined.start emitting.not_isCutOff

theorem emit {emitter : GroupEmitter} {emission : Emission} {effects : List EmissionEffect}
    (emitting : Emitting state quiet history) (before : state.emitters = [emitter])
    (after : next.emitters = [{ emitter with emission }])
    (owned : ∀ task ∈ next.tasks, next.groupSync = some task.id)
    (nextEmitter : next.nextEmitter = state.nextEmitter)
    (transition : emitter.emission.Transition emission effects) :
    Emitting next quiet (history ++ effects.map (.wrote emitter.id)) := by
  refine ⟨owned, ?_, ?_, emitting.marks.append ?_, ?_⟩
  · intro id member
    rw [nextEmitter]
    exact emitting.used id (by simpa using member)
  · rw [after, nextEmitter]
    have known := emitting.given emitter (by simp [before])
    simpa using known
  · intro entry member event isEvent _
    rcases List.mem_map.mp member with ⟨effect, _, rfl⟩
    cases effect with
    | emitted written => exact ⟨emitter.id, by rw [List.mem_singleton.mp isEvent]⟩
    | queried | indexed => cases isEvent
  · have disciplined := emitting.disciplined
    rw [live, before] at disciplined
    rw [live, after]
    exact disciplined_emit transition disciplined

theorem retire {emitter : GroupEmitter} {result : Except String Unit}
    (emitting : Emitting state quiet history) (before : state.emitters = [emitter])
    (finished : emitter.emission = .finished result) (after : next.emitters = [])
    (nextEmitter : next.nextEmitter = state.nextEmitter)
    (continues : result ≠ .ok () → quiet → later) : Emitting next later history := by
  have noTasks : next.tasks = [] := (List.append_eq_nil_iff.mp after).2
  refine ⟨by simp [noTasks], ?_, by simp [after], emitting.marks, ?_⟩
  · rw [nextEmitter]
    exact emitting.used
  · have disciplined := emitting.disciplined
    rw [live, before] at disciplined
    rw [live, after]
    cases result with
    | ok done =>
        exact disciplined.retire (by simp [finished, Emission.stage])
          (by simp [finished, Emission.stage])
    | error error =>
        exact disciplined.retire (by simp [finished, Emission.stage])
          fun _ => continues (by simp)

theorem tasks_of_none (emitting : Emitting state quiet history)
    (handle : state.groupSync = none) : state.tasks = [] := by
  rcases emitting.tasks_cases with noTasks | ⟨task, _, _, owned⟩
  · exact noTasks
  · rw [handle] at owned
    cases owned

end Emitting

@[simp] theorem groupSync_abortGroupSync (state : SnapshotRun) :
    state.abortGroupSync.1.groupSync = none := by
  unfold abortGroupSync
  split
  · assumption
  · rfl

@[simp] theorem awaited_abortGroupSync (state : SnapshotRun) :
    state.abortGroupSync.1.awaited = state.awaited := by
  unfold abortGroupSync
  split <;> rfl

/-- The emissions are those that `run` is waiting for. -/
structure Linked (state : SnapshotRun) : Prop where
  groupSync : state.connection.groupSync = state.groupSync.isSome
  awaited : state.connection.control.awaitsSnapshot = state.awaited.isSome

theorem follow_of_synced {next : Connection} (settled : next.Settled)
    (emitting : Emitting state quiet history) (synced : next.groupSync = true)
    (dropped : state.awaited.isSome = true → next.control.awaitsSnapshot = false → quiet) :
    Emitting (state.follow next).1 quiet (history ++ (state.follow next).2) ∧
      (state.follow next).1.Linked := by
  have unawaiting : next.control.awaitsSnapshot = false := by
    rcases settled.syncing synced with control | control <;> rw [control] <;> rfl
  have droppedNow := emitting.dropSnapshot fun isAwaited => dropped isAwaited unawaiting
  simp only [follow, synced, unawaiting, if_true, Bool.false_eq_true, if_false, Bool.true_and,
    Bool.false_and, List.nil_append]
  cases handle : state.groupSync with
  | none =>
      have noTasks : state.dropSnapshot.1.tasks = [] := droppedNow.tasks_of_none handle
      exact ⟨(droppedNow.spawnGroupSync rfl noTasks).frame rfl rfl rfl rfl, ⟨synced, unawaiting⟩⟩
  | some id =>
      refine ⟨droppedNow.frame rfl rfl rfl rfl, ⟨?_, unawaiting⟩⟩
      rw [synced]
      exact congrArg Option.isSome handle.symm

theorem follow_of_unsynced {next : Connection} (emitting : Emitting state quiet history)
    (unsynced : next.groupSync = false) (released : state.groupSync.isSome = true → quiet)
    (dropped : state.awaited.isSome = true → next.control.awaitsSnapshot = false → quiet) :
    Emitting (state.follow next).1 quiet (history ++ (state.follow next).2) ∧
      (state.follow next).1.Linked := by
  have aborted := emitting.abortGroupSync released
  have noTasks := aborted.tasks_of_none (groupSync_abortGroupSync state)
  simp only [follow, unsynced, Bool.false_eq_true, if_false, Bool.false_and]
  cases awaits : next.control.awaitsSnapshot with
  | false =>
      have droppedNow := aborted.dropSnapshot fun isAwaited =>
        dropped (by simpa using isAwaited) awaits
      simp only [Bool.false_eq_true, if_false, Bool.false_and]
      rw [← List.append_assoc]
      exact ⟨droppedNow.frame rfl rfl rfl rfl,
        ⟨by simpa [SnapshotRun.dropSnapshot] using unsynced, awaits⟩⟩
  | true =>
      simp only [if_true, Bool.true_and, List.append_nil]
      cases awaited : state.awaited with
      | none =>
          refine ⟨(aborted.awaitSnapshot _ (by simpa using awaited) noTasks).frame rfl rfl rfl rfl,
            ⟨?_, awaits⟩⟩
          simpa [SnapshotRun.awaitSnapshot] using unsynced
      | some emitter =>
          refine ⟨aborted.frame rfl rfl rfl rfl, ⟨by simpa using unsynced, ?_⟩⟩
          simpa [awaited] using awaits

theorem emitting_follow {next : Connection} (settled : next.Settled)
    (emitting : Emitting state next.IsQuiet history)
    (released : state.groupSync.isSome = true → next.groupSync = false → next.IsQuiet)
    (dropped : state.awaited.isSome = true → next.control.awaitsSnapshot = false →
      next.IsQuiet) :
    Emitting (state.follow next).1 next.IsQuiet (history ++ (state.follow next).2) ∧
      (state.follow next).1.Linked := by
  cases synced : next.groupSync with
  | true => exact follow_of_synced settled emitting synced dropped
  | false =>
      exact follow_of_unsynced emitting synced (fun handle => released handle synced) dropped

@[simp] theorem connection_follow (state : SnapshotRun) (next : Connection) :
    (state.follow next).1.connection = next := rfl

@[simp] theorem groups_follow (state : SnapshotRun) (next : Connection) :
    (state.follow next).1.groups = state.groups := by
  have aborted : state.abortGroupSync.1.groups = state.groups := by
    unfold abortGroupSync
    split <;> rfl
  simp only [follow]
  split <;> split <;> split <;> split <;>
    simp [awaitSnapshot, spawnGroupSync, dropSnapshot, aborted]

/-- A leave is handled under the authority that its command found. -/
def Handles (groups : GroupSession) (connection : Connection) : Prop :=
  ∀ leave, groups.pendingLeave = some leave → connection.control = .stopped ∨
    connection.control = .selecting ∧
      leave.groupsAuthoritative = connection.session.groupsAuthoritative

structure Apart (state : SnapshotRun) (history : List SnapshotEntry) : Prop where
  settled : state.connection.Settled
  linked : state.Linked
  handles : Handles state.groups state.connection
  emitting : Emitting state state.connection.IsQuiet history

namespace Apart

theorem initial : Apart {} [] :=
  ⟨Connection.Settled.initial, ⟨rfl, rfl⟩, by simp [Handles], Emitting.initial _⟩

theorem advance {label : ConnectionLabel} {shown : List Event} (before : state.connection.Settled)
    (emitting : ∀ reached inner, state.connection.step label = some (reached, inner) →
      Emitting state reached.IsQuiet (history ++ shown.map .presented) ∧
        (state.groupSync.isSome = true → reached.groupSync = false → reached.IsQuiet) ∧
        (state.awaited.isSome = true → reached.control.awaitsSnapshot = false →
          reached.IsQuiet) ∧ Handles state.groups reached)
    (stepped : state.advance label shown = some (next, entries)) :
    Apart next (history ++ entries) := by
  rcases Option.map_eq_some_iff.mp stepped with ⟨⟨reached, inner⟩, moved, same⟩
  cases same
  obtain ⟨written, released, dropped, handles⟩ := emitting reached inner moved
  have settled := before.step moved
  have ⟨followed, linked⟩ := emitting_follow settled written released dropped
  have silent : ∀ entry ∈ inner.map SnapshotEntry.connection, entry.Unmarked False := by
    intro entry member
    rcases List.mem_map.mp member with ⟨found, inside, rfl⟩
    exact SnapshotEntry.unmarked_connection (Connection.silent_of_step moved found inside)
  refine ⟨settled, linked, ?_, ?_⟩
  · rw [groups_follow]
    exact handles
  · have presented := followed.present silent (fun impossible => impossible.elim)
    simpa only [connection_follow, List.append_assoc] using presented

theorem ordinary {label : ConnectionLabel} {shown : List Event} {inGroup : Prop}
    (apart : Apart state history) (isOrdinary : label.endsSnapshot = false)
    (unmarked : ∀ event ∈ shown, event.Unmarked inGroup)
    (outside : inGroup → state.live = [] ∧ ¬ state.connection.IsQuiet)
    (handles : ∀ reached inner, state.connection.step label = some (reached, inner) →
      Handles state.groups reached)
    (stepped : state.advance label shown = some (next, entries)) :
    Apart next (history ++ entries) := by
  refine advance apart.settled ?_ stepped
  intro reached inner moved
  have written : ∀ entry ∈ shown.map SnapshotEntry.presented, entry.Unmarked inGroup := by
    intro entry member
    rcases List.mem_map.mp member with ⟨event, inside, rfl⟩
    exact SnapshotEntry.unmarked_presented (unmarked event inside)
  have quieter : state.connection.IsQuiet → reached.IsQuiet := by
    refine Connection.quiet_of_step ?_ ?_ moved <;> rintro rfl <;> cases isOrdinary
  refine ⟨(apart.emitting.present written outside).relax quieter, ?_, ?_,
    handles reached inner moved⟩
  · rw [← apart.linked.groupSync]
    exact Connection.quiet_of_released isOrdinary moved
  · rw [← apart.linked.awaited]
    exact Connection.quiet_of_dropped isOrdinary moved

/-- Under authority no snapshot is being emitted, except by `run` itself. -/
theorem nothing_live (apart : Apart state history)
    (authoritative : state.connection.session.groupsAuthoritative = true)
    (unawaiting : state.connection.control.awaitsSnapshot = false) : state.live = [] := by
  have notPending : state.connection.session.groups ≠ .pending := by
    intro pending
    simp [SessionState.groupsAuthoritative, pending] at authoritative
  have unsynced : state.groupSync = none := by
    have synced := mt apart.settled.syncPending notPending
    rw [apart.linked.groupSync] at synced
    simpa using synced
  have unawaited : state.awaited = none := by
    rw [apart.linked.awaited] at unawaiting
    simpa using unawaiting
  simp [live, emitters, unawaited, apart.emitting.tasks_of_none unsynced]

theorem loud (authoritative : state.connection.session.groupsAuthoritative = true)
    (running : state.connection.control ≠ .stopped) : ¬ state.connection.IsQuiet := by
  rintro (pending | stopped)
  · simp [SessionState.groupsAuthoritative, pending] at authoritative
  · exact running stopped

variable {account : Account}

theorem emission {emitter reached : GroupEmitter} {label : EmissionLabel}
    {groups : GroupSession} {written : List SnapshotEntry}
    (emitted : state.emit account emitter label = some (reached, groups, written)) :
    groups.pendingLeave = state.groups.pendingLeave ∧
      ∃ emission effects, reached = { emitter with emission } ∧
        emitter.emission.Transition emission effects ∧
        written = effects.map (.wrote emitter.id) := by
  rcases Option.map_eq_some_iff.mp emitted with ⟨⟨emission, effects⟩, stepped, same⟩
  cases same
  exact ⟨rfl, emission, effects, rfl,
    Emission.transition_of_step stepped, rfl⟩

theorem snapshot {label : EmissionLabel} (apart : Apart state history)
    (stepped : state.step account (.snapshot label) = some (next, entries)) :
    Apart next (history ++ entries) := by
  simp only [SnapshotRun.step] at stepped
  split at stepped
  next => cases stepped
  next emitter awaited =>
    rcases Option.map_eq_some_iff.mp stepped with ⟨⟨reached, groups, written⟩, emitted, same⟩
    cases same
    obtain ⟨samePending, emission, effects, rfl, transition, rfl⟩ := emission emitted
    obtain ⟨alone, noTasks⟩ := apart.emitting.emitters_of_awaited awaited
    refine ⟨apart.settled, ⟨apart.linked.groupSync, ?_⟩, ?_, ?_⟩
    · rw [apart.linked.awaited, awaited]
      rfl
    · exact fun leave pending => apart.handles leave (samePending ▸ pending)
    · exact apart.emitting.emit alone (by simp [emitters, noTasks]) (by simp [noTasks]) rfl
        transition

theorem task {id : EmitterId} {label : EmissionLabel} (apart : Apart state history)
    (stepped : state.step account (.task id label) = some (next, entries)) :
    Apart next (history ++ entries) := by
  simp only [SnapshotRun.step] at stepped
  split at stepped
  next => cases stepped
  next emitter found =>
    rcases Option.map_eq_some_iff.mp stepped with ⟨⟨reached, groups, written⟩, emitted, same⟩
    cases same
    obtain ⟨samePending, emission, effects, rfl, transition, rfl⟩ := emission emitted
    obtain ⟨rfl, alone, single, unawaited, owned⟩ := apart.emitting.emitters_of_task found
    refine ⟨apart.settled, ⟨apart.linked.groupSync, apart.linked.awaited⟩, ?_, ?_⟩
    · exact fun leave pending => apart.handles leave (samePending ▸ pending)
    · exact apart.emitting.emit alone (by simp [emitters, single, unawaited])
        (by simp [single, owned]) rfl transition

/-- A task that sees the shutdown first leaves its handle behind, so the groups stay
unknown to `run`. -/
theorem taskStopped {id : EmitterId} (apart : Apart state history)
    (stepped : state.step account (.taskStopped id) = some (next, entries)) :
    Apart next (history ++ entries) := by
  simp only [SnapshotRun.step] at stepped
  split at stepped
  next => cases stepped
  next emitter found =>
    split at stepped
    next active =>
      cases stepped
      obtain ⟨rfl, alone, single, unawaited, owned⟩ := apart.emitting.emitters_of_task found
      have synced : state.connection.groupSync = true := by
        rw [apart.linked.groupSync, owned]
        rfl
      have quiet : state.connection.IsQuiet := Or.inl (apart.settled.syncPending synced)
      refine ⟨apart.settled, ⟨apart.linked.groupSync, apart.linked.awaited⟩, apart.handles, ?_⟩
      have ended : abortion emitter = [.aborted emitter.id] := by simp [abortion, active]
      rw [← ended]
      refine apart.emitting.cut alone ?_ rfl quiet
      simp [emitters, single, unawaited]
    next => cases stepped

theorem result {taken : SnapshotRun} {emitter : GroupEmitter} {label : ConnectionLabel}
    {outcome : Except String Unit} (apart : Apart state history)
    (stepped : taken.advance label [] = some (next, entries))
    (before : state.emitters = [emitter]) (finished : emitter.emission = .finished outcome)
    (after : taken.emitters = []) (released : taken.groupSync = none)
    (nextEmitter : taken.nextEmitter = state.nextEmitter)
    (connection : taken.connection = state.connection)
    (noLeave : taken.groups.pendingLeave = none)
    (isResult : label = .introduced outcome ∨ label = .refreshed outcome ∨
      label = .groupSynced outcome) :
    Apart next (history ++ entries) := by
  have settled : taken.connection.Settled := connection ▸ apart.settled
  refine advance settled ?_ stepped
  intro reached inner moved
  have unawaited : taken.awaited = none := by
    simpa using (List.append_eq_nil_iff.mp after).1
  refine ⟨?_, by simp [released], by simp [unawaited], by simp [Handles, noLeave]⟩
  rw [List.map_nil, List.append_nil]
  refine apart.emitting.retire before finished after nextEmitter ?_
  intro failed quiet
  rw [← connection] at quiet
  apply Connection.quiet_of_step _ _ moved quiet
  · rintro rfl
    rcases isResult with same | same | same <;> cases same
    exact failed rfl
  · rintro rfl
    rcases isResult with same | same | same <;> cases same
    exact failed rfl

theorem snapshotEnded (apart : Apart state history)
    (stepped : state.step account .snapshotEnded = some (next, entries)) :
    Apart next (history ++ entries) := by
  simp only [SnapshotRun.step] at stepped
  split at stepped
  next id outcome awaited =>
    obtain ⟨alone, noTasks⟩ := apart.emitting.emitters_of_awaited awaited
    have awaits : state.connection.control.awaitsSnapshot = true := by
      rw [apart.linked.awaited, awaited]
      rfl
    have elsewhere : ∀ control : Control, control.awaitsSnapshot = false →
        state.connection.control ≠ control := by
      rintro control unawaited rfl
      rw [awaits] at unawaited
      cases unawaited
    have released : state.groupSync = none := by
      have unsynced := apart.settled.unsynced (elsewhere _ rfl) (elsewhere _ rfl)
      rw [apart.linked.groupSync] at unsynced
      simpa using unsynced
    have noLeave : state.groups.pendingLeave = none := by
      cases pending : state.groups.pendingLeave with
      | none => rfl
      | some leave =>
          rcases apart.handles leave pending with stopped | ⟨selecting, _⟩
          · exact absurd stopped (elsewhere _ rfl)
          · exact absurd selecting (elsewhere _ rfl)
    split at stepped
    next => cases stepped
    next label isLabel =>
      have isResult : label = .introduced outcome ∨ label = .refreshed outcome ∨
          label = .groupSynced outcome := by
        unfold resultLabel at isLabel
        split at isLabel <;> cases isLabel <;> simp
      exact apart.result stepped alone rfl (by simp [emitters, noTasks]) released rfl rfl
        noLeave isResult
  next => cases stepped

theorem groupSynced {id : EmitterId} (apart : Apart state history)
    (stepped : state.step account (.groupSynced id) = some (next, entries)) :
    Apart next (history ++ entries) := by
  simp only [SnapshotRun.step] at stepped
  split at stepped
  next taskId outcome found =>
    obtain ⟨rfl, alone, single, unawaited, owned⟩ := apart.emitting.emitters_of_task found
    split at stepped
    next => cases stepped
    next noLeave =>
      exact apart.result stepped alone rfl (by simp [emitters, single, unawaited]) rfl rfl rfl
        (by simpa using noLeave) (Or.inr (Or.inr rfl))
  next => cases stepped

theorem handles_of_step {label : ConnectionLabel} {reached : Connection}
    {inner : List ConnectionEntry} (apart : Apart state history)
    (uninterrupted : state.groups.pendingLeave.isSome = true → label.interruptsCommand = true)
    (moved : state.connection.step label = some (reached, inner)) :
    Handles state.groups reached := by
  intro leave pending
  have interrupts := uninterrupted (by simp [pending])
  have handled := apart.handles leave pending
  cases label with
  | shutdown =>
      simp only [Connection.step] at moved
      split at moved
      · cases moved
      · rcases Connection.projecting_eq_some moved with ⟨actor, shown, _, rfl, _⟩
        exact Or.inl rfl
  | projection label =>
      simp only [Connection.step] at moved
      split at moved
      · rcases Connection.projecting_eq_some moved with ⟨actor, shown, _, rfl, _⟩
        exact handled
      · cases moved
  | _ => cases interrupts

theorem connection {label : ConnectionLabel} (apart : Apart state history)
    (stepped : state.step account (.connection label) = some (next, entries)) :
    Apart next (history ++ entries) := by
  simp only [SnapshotRun.step] at stepped
  split at stepped
  next => cases stepped
  next enabled =>
    simp only [Bool.or_eq_true, Bool.and_eq_true, Bool.not_eq_true', not_or, not_and,
      Bool.not_eq_true, Bool.not_eq_false] at enabled
    have nothing : ∀ event ∈ ([] : List Event), event.Unmarked False := by simp
    refine apart.ordinary enabled.1.1 nothing (fun impossible => impossible.elim) ?_ stepped
    exact fun reached inner moved => apart.handles_of_step enabled.2 moved

theorem handled {receiptDiscarded : Bool} {outcomes : PresentationOutcomes}
    (apart : Apart state history)
    (stepped : state.step account (.handled receiptDiscarded outcomes) = some (next, entries)) :
    Apart next (history ++ entries) := by
  simp only [SnapshotRun.step] at stepped
  split at stepped
  next deliveryId content phase =>
    obtain ⟨dispatching, authority⟩ := apart.settled.handling deliveryId content phase
    refine apart.ordinary rfl (unmarked_handleContent _ content deliveryId receiptDiscarded) ?_ ?_
      stepped
    · intro inGroup
      have authoritative := authority inGroup
      exact ⟨apart.nothing_live authoritative (by rw [dispatching]; rfl),
        loud authoritative (by simp [dispatching])⟩
    · intro reached inner moved leave pending
      rcases apart.handles leave pending with stopped | ⟨selecting, _⟩
      · simp [dispatching] at stopped
      · simp [dispatching] at selecting
  next => cases stepped

theorem leave {requestId : UInt64} {groupKey : String} (apart : Apart state history)
    (stepped : state.step account (.leave requestId groupKey) = some (next, entries)) :
    Apart next (history ++ entries) := by
  simp only [SnapshotRun.step] at stepped
  split at stepped
  next enabled =>
    cases stepped
    rw [List.append_nil]
    refine ⟨apart.settled, ⟨apart.linked.groupSync, apart.linked.awaited⟩, ?_,
      apart.emitting.frame rfl rfl rfl rfl⟩
    intro leave pending
    cases pending
    exact Or.inr ⟨enabled.1, rfl⟩
  next => cases stepped

theorem leaveHandled {outcomes : LeaveOutcomes} (apart : Apart state history)
    (stepped : state.step account (.leaveHandled outcomes) = some (next, entries)) :
    Apart next (history ++ entries) := by
  simp only [SnapshotRun.step] at stepped
  split at stepped
  next => cases stepped
  next leave pending =>
    have apartTaken : Apart { state with
        groups := (state.groups.finishLeave account leave outcomes).1 } history :=
      ⟨apart.settled, ⟨apart.linked.groupSync, apart.linked.awaited⟩,
        by simp [Handles, GroupSession.finishLeave], apart.emitting.frame rfl rfl rfl rfl⟩
    have unmarked : ∀ event ∈
        (state.groups.finishLeave account leave outcomes).2.flatMap GroupEntry.events,
        event.Unmarked (leave.groupsAuthoritative = true) := by
      intro event member
      rcases List.mem_flatMap.mp member with ⟨entry, inside, isEvent⟩
      exact unmarked_handleLeave entry inside event isEvent
    refine apartTaken.ordinary rfl unmarked ?_ (by simp [Handles, GroupSession.finishLeave])
      stepped
    intro accepted
    rcases apart.handles leave pending with stopped | ⟨selecting, same⟩
    · rcases Option.map_eq_some_iff.mp stepped with ⟨reached, moved, _⟩
      exact absurd stopped (Connection.not_stopped_of_step moved (by simp))
    · have authoritative : state.connection.session.groupsAuthoritative = true := same ▸ accepted
      have running : state.connection.control ≠ .stopped := by simp [selecting]
      exact ⟨apartTaken.nothing_live authoritative (by simp [selecting, Control.awaitsSnapshot]),
        loud authoritative running⟩

theorem step {label : SnapshotLabel} (apart : Apart state history)
    (stepped : state.step account label = some (next, entries)) :
    Apart next (history ++ entries) := by
  cases label with
  | connection label => exact apart.connection stepped
  | snapshot label => exact apart.snapshot stepped
  | snapshotEnded => exact apart.snapshotEnded stepped
  | task id label => exact apart.task stepped
  | taskStopped id => exact apart.taskStopped stepped
  | groupSynced id => exact apart.groupSynced stepped
  | handled receiptDiscarded outcomes => exact apart.handled stepped
  | recordChanged key record =>
      cases stepped
      rw [List.append_nil]
      have samePending : (state.groups.changeRecord key record).pendingLeave =
          state.groups.pendingLeave := by cases record <;> rfl
      refine ⟨apart.settled, ⟨apart.linked.groupSync, apart.linked.awaited⟩, ?_,
        apart.emitting.frame rfl rfl rfl rfl⟩
      exact fun leave pending => apart.handles leave (samePending ▸ pending)
  | leave requestId groupKey => exact apart.leave stepped
  | leaveHandled outcomes => exact apart.leaveHandled stepped

end Apart

/-! ## The law -/

def activeEmitters (state : SnapshotRun) : List GroupEmitter :=
  state.emitters.filter (·.emission.isActive)

structure SnapshotLaw (state : SnapshotRun) (history : List SnapshotEntry) : Prop where
  /-- A task in flight, or the result of one, is waited for only while the groups are
  unknown. -/
  syncPending : state.tasks ≠ [] ∨ state.groupSync.isSome = true →
    state.connection.session.groups = .pending
  oneEmitter : state.activeEmitters.length ≤ 1
  onlyEmittersMark : OnlyEmittersMark history
  keptApart : snapshotBrackets.KeptApart history

/-- In every run of the connection actor with its group-sync tasks, snapshots do not
interleave, with each other or with what is emitted for a group. -/
theorem snapshotLaw_of_run (account : Account) {labels : List SnapshotLabel}
    (runs : (machine account).run labels = some (state, history)) :
    SnapshotLaw state history := by
  have apart : Apart state history := by
    apply (machine account).run_invariant Apart.initial _ runs
    intro state history label next entries apart stepped
    exact apart.step stepped
  refine ⟨?_, ?_, apart.emitting.marks,
    Brackets.keptApart_of_justified apart.emitting.disciplined.justified⟩
  · intro inFlight
    apply apart.settled.syncPending
    rw [apart.linked.groupSync]
    rcases inFlight with someTask | handle
    · rcases apart.emitting.tasks_cases with none | ⟨task, _, _, owned⟩
      · exact absurd none someTask
      · rw [owned]
        rfl
    · exact handle
  · have single : state.emitters.length ≤ 1 := by
      simpa [live] using apart.emitting.disciplined.single
    exact (List.length_filter_le _ _).trans single

def storedSevens : List (GroupKey × StoredGroup) :=
  [(.sevens,
    { title := "Sevens", revision := 3
      members := [{ aci := GroupSession.ownAccount.localAci, isAdministrator := true }] })]

def wholeSnapshot : List EmissionLabel :=
  [.queried (.ok storedSevens), .groupsRead, .proceed none, .proceed none, .proceed none]

def connectWithSnapshot : List SnapshotLabel :=
  [.connection (.receiveStarted (.ok ()))] ++ wholeSnapshot.map .snapshot ++
    [.snapshotEnded, .connection (.loaded (.ok [])), .connection .prepared,
      .connection .round, .connection (.received (some .queueEmpty))]

/-- The connection is lost in the middle of a group sync. The next one gets through, and a
message of the group is shown. -/
def interruptedSync : List SnapshotLabel :=
  [.connection .restart] ++ connectWithSnapshot ++
    [.task 1 (.synchronized (.ok ())), .task 1 (.queried (.ok storedSevens)),
      .task 1 .groupsRead, .connection .round, .connection (.received none), .connection .restart,
      .connection .delayElapsed] ++ connectWithSnapshot ++
    (EmissionLabel.synchronized (.ok ()) :: wholeSnapshot).map (.task 3) ++
    [.connection .round, .groupSynced 3, .connection .round,
      .connection (.received (some (.content (groupContent 1)))),
      .connection .round,
      .handled false
        { departedAfter := {}
          group := .ok (some GroupSession.ownGroup)
          download := fun _ => .error ""
          transcode := fun _ => none }]

theorem snapshotLaw_of_interruptedSync :
    ∃ state history,
      (machine GroupSession.ownAccount).run interruptedSync = some (state, history) ∧
      SnapshotLaw state history ∧
      (history.flatMap SnapshotEntry.events).map (·.kind) =
        [.groupSyncBegin, .group, .groupMember, .groupSyncEnd, .ready, .groupSyncBegin,
          .recovering, .error, .groupSyncBegin, .group, .groupMember, .groupSyncEnd, .ready,
          .groupSyncBegin, .group, .groupMember, .groupSyncEnd, .groupMessage] := by
  have defined : ((machine GroupSession.ownAccount).run interruptedSync).any
      (fun reached => (reached.2.flatMap SnapshotEntry.events).map (·.kind) =
        [.groupSyncBegin, .group, .groupMember, .groupSyncEnd, .ready, .groupSyncBegin,
          .recovering, .error, .groupSyncBegin, .group, .groupMember, .groupSyncEnd, .ready,
          .groupSyncBegin, .group, .groupMember, .groupSyncEnd, .groupMessage]) = true := by
    decide +kernel
  rcases (Option.any_eq_true _ _).mp defined with ⟨⟨state, history⟩, runs, kinds⟩
  exact ⟨state, history, runs, snapshotLaw_of_run _ runs, of_decide_eq_true kinds⟩

end SnapshotRun

end SignalPurple
