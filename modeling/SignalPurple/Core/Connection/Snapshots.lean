import SignalPurple.Core.Connection.Events
import SignalPurple.Core.Connection.GroupSync
import SignalPurple.Core.GroupSession
import SignalPurple.Core.GroupSnapshot
import SignalPurple.Foundation.Simulation

/-! # Group snapshots of a connection

Three places emit a group snapshot: the startup phases, the group-sync task that runs
beside the connection actor, and the refresh of dirty groups in the dispatch loop. Here
the connection actor runs together with the emissions it awaits or has spawned, the
contents it presents and the leaves it handles. Events of a group have no other source.
-/

namespace SignalPurple

abbrev EmitterId := Nat

/-- A call of `emit_group_snapshot` that can still run, or whose result was not taken. -/
structure GroupEmitter where
  id : EmitterId
  emission : Emission

structure SnapshotRun where
  connection : Connection := {}
  groups : GroupSession := {}
  /-- The emission that `run` awaits. -/
  awaited : Option GroupEmitter := none
  /-- The handle in `receive_tasks`. Dropping it would not stop the task. -/
  groupSync : Option EmitterId := none
  tasks : List GroupEmitter := []
  nextEmitter : EmitterId := 0

inductive SnapshotLabel where
  /-- A step of `run` that takes no result of an emission and handles no content. -/
  | connection (label : ConnectionLabel)
  /-- The awaited emission moves on. -/
  | snapshot (label : EmissionLabel)
  /-- `run` takes the result of the awaited emission. -/
  | snapshotEnded
  | task (id : EmitterId) (label : EmissionLabel)
  /-- `synchronize_groups_task` sees the shutdown before `run` does. -/
  | taskStopped (id : EmitterId)
  /-- `run` receives the result of a task. -/
  | groupSynced (id : EmitterId)
  | handled (receiptDiscarded : Bool) (outcomes : PresentationOutcomes)
  | recordChanged (key : GroupKey) (record : Option Group)
  | leave (requestId : UInt64) (groupKey : String)
  | leaveHandled (outcomes : LeaveOutcomes)

inductive SnapshotEntry where
  | connection (entry : ConnectionEntry)
  /-- By the actor, for a content or for a leave. -/
  | presented (event : Event)
  | wrote (id : EmitterId) (effect : EmissionEffect)
  /-- The emission had not finished and runs no further code. -/
  | aborted (id : EmitterId)

namespace SnapshotEntry

def events : SnapshotEntry → List Event
  | .connection entry => entry.events
  | .presented event | .wrote _ (.emitted event) => [event]
  | .wrote _ .queried | .wrote _ (.indexed _ _) | .aborted _ => []

end SnapshotEntry

namespace ConnectionLabel

def handlesContent : ConnectionLabel → Bool
  | .projection (.handled _) => true
  | _ => false

/-- The label is possible while `run` awaits `handle_command`. -/
def interruptsCommand : ConnectionLabel → Bool
  | .projection (.submit _) | .shutdown => true
  | _ => false

end ConnectionLabel

namespace SnapshotRun

/-! ## Emissions start and end -/

def spawnGroupSync (state : SnapshotRun) : SnapshotRun :=
  { state with
    groupSync := some state.nextEmitter
    tasks := state.tasks ++ [{ id := state.nextEmitter, emission := .synchronizing }]
    nextEmitter := state.nextEmitter + 1 }

/-- `emit_group_snapshot` is called, at startup with `authoritative = false`. -/
def awaitSnapshot (state : SnapshotRun) (authoritative : Bool) : SnapshotRun :=
  { state with
    awaited := some { id := state.nextEmitter, emission := .reading authoritative }
    nextEmitter := state.nextEmitter + 1 }

def abortion (emitter : GroupEmitter) : List SnapshotEntry :=
  if emitter.emission.isActive then [.aborted emitter.id] else []

/-- `stop_receive_tasks` aborts the task that the handle refers to. -/
def abortGroupSync (state : SnapshotRun) : SnapshotRun × List SnapshotEntry :=
  match state.groupSync with
  | none => (state, [])
  | some id =>
      ({ state with groupSync := none, tasks := state.tasks.filter (·.id != id) },
        (state.tasks.filter (·.id == id)).flatMap abortion)

def dropSnapshot (state : SnapshotRun) : SnapshotRun × List SnapshotEntry :=
  ({ state with awaited := none }, state.awaited.toList.flatMap abortion)

/-- What a step of `run` does to the emissions. -/
def follow (state : SnapshotRun) (next : Connection) : SnapshotRun × List SnapshotEntry :=
  let kept := if next.groupSync then (state, []) else state.abortGroupSync
  let awaiting := if next.control.awaitsSnapshot then (kept.1, []) else kept.1.dropSnapshot
  let spawned :=
    if next.groupSync && state.groupSync.isNone then awaiting.1.spawnGroupSync
    else awaiting.1
  let started :=
    if next.control.awaitsSnapshot && state.awaited.isNone then
      spawned.awaitSnapshot (next.control == .refreshing)
    else spawned
  ({ started with connection := next }, kept.2 ++ awaiting.2)

def advance (state : SnapshotRun) (label : ConnectionLabel) (shown : List Event) :
    Option (SnapshotRun × List SnapshotEntry) :=
  (state.connection.step label).map fun reached =>
    let followed := state.follow reached.1
    (followed.1,
      shown.map .presented ++ followed.2 ++ reached.2.map .connection)

/-! ## Steps -/

def indexGroups (groups : GroupSession) (effects : List EmissionEffect) : GroupSession :=
  { groups with
    outbox := { groups.outbox with cache := groups.outbox.cache.indexEffects effects } }

variable (account : Account)

def emit (state : SnapshotRun) (emitter : GroupEmitter) (label : EmissionLabel) :
    Option (GroupEmitter × GroupSession × List SnapshotEntry) :=
  (emitter.emission.step account state.groups.departed label).map fun reached =>
    ({ emitter with emission := reached.1 }, indexGroups state.groups reached.2,
      reached.2.map (.wrote emitter.id))

/-- The result of the awaited emission, as `run` takes it at its point of control. -/
def resultLabel (result : Except String Unit) : Control → Option ConnectionLabel
  | .introducing => some (.introduced result)
  | .refreshing => some (.refreshed result)
  | _ => none

def step (state : SnapshotRun) :
    SnapshotLabel → Option (SnapshotRun × List SnapshotEntry)
  | .connection label =>
      if label.endsSnapshot || label.handlesContent
          || (state.groups.pendingLeave.isSome && !label.interruptsCommand) then none
      else state.advance label []
  | .snapshot label =>
      match state.awaited with
      | none => none
      | some emitter =>
          (state.emit account emitter label).map fun reached =>
            ({ state with awaited := some reached.1, groups := reached.2.1 }, reached.2.2)
  | .snapshotEnded =>
      match state.awaited with
      | some { emission := .finished result, .. } =>
          match resultLabel result state.connection.control with
          | none => none
          | some label => { state with awaited := none }.advance label []
      | _ => none
  | .task id label =>
      match state.tasks.find? (·.id == id) with
      | none => none
      | some emitter =>
          (state.emit account emitter label).map fun reached =>
            ({ state with
               tasks := state.tasks.map fun task => if task.id == id then reached.1 else task
               groups := reached.2.1 }, reached.2.2)
  | .taskStopped id =>
      match state.tasks.find? (·.id == id) with
      | none => none
      | some emitter =>
          if emitter.emission.isActive then
            some ({ state with tasks := state.tasks.filter (·.id != id) }, [.aborted id])
          else none
  | .groupSynced id =>
      match state.tasks.find? (·.id == id) with
      | some { emission := .finished result, .. } =>
          if state.groups.pendingLeave.isSome then none
          else
            -- The task is over, and `receive_tasks.group_sync` is cleared.
            { state with
              groupSync := none
              tasks := state.tasks.filter (·.id != id) }.advance (.groupSynced result) []
      | _ => none
  | .handled receiptDiscarded outcomes =>
      match state.connection.actor.phase with
      | .handling deliveryId content =>
          let shown := handleContent account state.groups.departed content deliveryId
            receiptDiscarded outcomes
          state.advance (.projection (.handled shown.2)) shown.1
      | _ => none
  | .recordChanged key record =>
      some ({ state with groups := state.groups.changeRecord key record }, [])
  | .leave requestId groupKey =>
      if state.connection.control = .selecting ∧ state.connection.actor.phase = .idle ∧
          state.connection.session.isReady = true ∧ state.groups.pendingLeave = none then
        some ({ state with
          groups := state.groups.takeUpLeave
            { requestId, groupKey
              groupsAuthoritative := state.connection.session.groupsAuthoritative } }, [])
      else none
  | .leaveHandled outcomes =>
      match state.groups.pendingLeave with
      | none => none
      | some leave =>
          let handled := state.groups.finishLeave account leave outcomes
          { state with groups := handled.1 }.advance .serviced
            (handled.2.flatMap GroupEntry.events)

def machine : Machine SnapshotRun SnapshotLabel SnapshotEntry where
  initial := {}
  step := step account

/-! ## The connection inside -/

/-- What the connection actor alone would have reported. -/
def inConnection : SnapshotEntry → Option ConnectionEntry
  | .connection entry => some entry
  | _ => none

variable {account} {state next : SnapshotRun} {entries : List SnapshotEntry}

theorem inConnection_abortion (emitter : GroupEmitter) :
    (abortion emitter).filterMap inConnection = [] := by
  unfold abortion
  split <;> rfl

theorem inConnection_follow (state : SnapshotRun) (reached : Connection) :
    (state.follow reached).2.filterMap inConnection = [] := by
  have aborted : state.abortGroupSync.2.filterMap inConnection = [] := by
    unfold abortGroupSync
    split
    · rfl
    · simp [List.filterMap_flatMap, inConnection_abortion]
  have dropped : ∀ state : SnapshotRun, state.dropSnapshot.2.filterMap inConnection = [] := by
    intro state
    simp [dropSnapshot, List.filterMap_flatMap, inConnection_abortion]
  simp only [follow, List.filterMap_append]
  split <;> split <;> simp [aborted, dropped]

theorem followed_of_advance {label : ConnectionLabel} {shown : List Event}
    {connection : Connection} (stepped : state.advance label shown = some (next, entries))
    (here : state.connection = connection) :
    ∃ followed, Connection.machine.runFrom connection followed =
      some (next.connection, entries.filterMap inConnection) := by
  rcases Option.map_eq_some_iff.mp stepped with ⟨⟨reached, inner⟩, moved, same⟩
  cases same
  refine ⟨[label], ?_⟩
  rw [← here, Connection.machine.runFrom_singleton moved]
  have presented : (shown.map SnapshotEntry.presented).filterMap inConnection = [] := by
    simp [List.filterMap_map, inConnection, Function.comp_def]
  have own : (inner.map SnapshotEntry.connection).filterMap inConnection = inner := by
    simp [List.filterMap_map, inConnection, Function.comp_def]
  simp only [List.filterMap_append, presented, own, inConnection_follow, List.nil_append]
  rfl

theorem inConnection_of_emit {emitter : GroupEmitter} {label : EmissionLabel}
    {reached : GroupEmitter × GroupSession × List SnapshotEntry}
    (emitted : state.emit account emitter label = some reached) :
    reached.2.2.filterMap inConnection = [] := by
  rcases Option.map_eq_some_iff.mp emitted with ⟨step, _, rfl⟩
  simp [List.filterMap_map, inConnection, Function.comp_def]

/-- Every run here is one of the connection actor, between whose steps others write. -/
def connectionSimulation (account : Account) :
    Machine.Simulation (machine account) Connection.machine where
  view := connection
  seen := inConnection
  initial := rfl
  step := by
    intro state label next entries stepped
    have unmoved : next.connection = state.connection → entries.filterMap inConnection = [] →
        ∃ followed, Connection.machine.runFrom state.connection followed =
          some (next.connection, entries.filterMap inConnection) := by
      intro same silent
      exact ⟨[], by rw [same, silent]; rfl⟩
    cases label with
    | connection label =>
        simp only [machine, step] at stepped
        split at stepped
        · cases stepped
        · exact followed_of_advance stepped rfl
    | snapshot label =>
        simp only [machine, step] at stepped
        split at stepped
        · cases stepped
        · rcases Option.map_eq_some_iff.mp stepped with ⟨reached, emitted, same⟩
          cases same
          exact unmoved rfl (inConnection_of_emit emitted)
    | snapshotEnded =>
        simp only [machine, step] at stepped
        split at stepped
        · split at stepped
          · cases stepped
          · exact followed_of_advance stepped rfl
        · cases stepped
    | task id label =>
        simp only [machine, step] at stepped
        split at stepped
        · cases stepped
        · rcases Option.map_eq_some_iff.mp stepped with ⟨reached, emitted, same⟩
          cases same
          exact unmoved rfl (inConnection_of_emit emitted)
    | taskStopped id =>
        simp only [machine, step] at stepped
        split at stepped
        · cases stepped
        · split at stepped
          · cases stepped
            exact unmoved rfl rfl
          · cases stepped
    | groupSynced id =>
        simp only [machine, step] at stepped
        split at stepped
        · split at stepped
          · cases stepped
          · exact followed_of_advance stepped rfl
        · cases stepped
    | handled receiptDiscarded outcomes =>
        simp only [machine, step] at stepped
        split at stepped
        · exact followed_of_advance stepped rfl
        · cases stepped
    | recordChanged key record =>
        cases stepped
        exact unmoved rfl rfl
    | leave requestId groupKey =>
        simp only [machine, step] at stepped
        split at stepped
        · cases stepped
          exact unmoved rfl rfl
        · cases stepped
    | leaveHandled outcomes =>
        simp only [machine, step] at stepped
        split at stepped
        · cases stepped
        · exact followed_of_advance stepped rfl

theorem connection_of_run {labels : List SnapshotLabel} {history : List SnapshotEntry}
    (runs : (machine account).run labels = some (state, history)) :
    ∃ followed, Connection.machine.run followed =
      some (state.connection, history.filterMap inConnection) :=
  (connectionSimulation account).runFrom runs

end SnapshotRun

end SignalPurple
