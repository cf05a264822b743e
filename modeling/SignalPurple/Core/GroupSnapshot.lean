import SignalPurple.Core.Groups
import SignalPurple.Foundation.Brackets
import SignalPurple.Foundation.Machine

/-! # Snapshots of the groups

`emit_group_snapshot` and `synchronize_and_emit_group_snapshot`, cut where they await or
yield: other code runs between two records of a snapshot. How reads of the store end and
what the shared set of departed groups holds at that moment are inputs.
-/

namespace SignalPurple

/-- A group as the store has it, with the roles of its members. -/
structure GroupMember where
  aci : Aci
  isAdministrator : Bool
  deriving DecidableEq

structure StoredGroup where
  title : String
  revision : UInt32
  members : List GroupMember
  deriving DecidableEq

def StoredGroup.group (stored : StoredGroup) : Group where
  title := stored.title
  revision := stored.revision
  members := stored.members.map (·.aci)

inductive SnapshotRecord where
  | avatar (chatId checksum : String) (data : Bytes)
  | member (chatId : String) (listed : GroupMember)

def SnapshotRecord.event : SnapshotRecord → Event
  | .avatar chatId checksum data =>
      { kind := .avatar, chatId := some chatId, title := some checksum, data }
  | .member chatId listed =>
      { kind := .groupMember
        chatId := some chatId
        peerId := some (ServiceId.aci listed.aci).serviceIdString
        value := if listed.isAdministrator then 1 else 0 }

theorem SnapshotRecord.kind_event (record : SnapshotRecord) :
    record.event.kind = .avatar ∨ record.event.kind = .groupMember := by
  cases record with
  | avatar => exact Or.inl rfl
  | member => exact Or.inr rfl

def groupSyncBeginEvent : Event := { kind := .groupSyncBegin }

def groupSyncEndEvent (authoritative : Bool) : Event :=
  { kind := .groupSyncEnd, value := if authoritative then 1 else 0 }

/-- Where the emission of a snapshot is. -/
inductive Emission where
  /-- It awaits `synchronize_storage_groups`. -/
  | synchronizing
  /-- It awaits the groups of the store. -/
  | reading (authoritative : Bool)
  /-- The store has answered, and the call is not resumed yet. -/
  | answered (authoritative : Bool)
      (result : Except StorageError (List (GroupKey × StoredGroup)))
  /-- It has begun: these records of a group and these groups are left. -/
  | emitting (authoritative : Bool) (records : List SnapshotRecord)
      (groups : List (GroupKey × StoredGroup))
  | finished (result : Except String Unit)

inductive EmissionLabel where
  | synchronized (result : Except String Unit)
  /-- The store reads its groups. -/
  | queried (result : Except StorageError (List (GroupKey × StoredGroup)))
  /-- The answer is delivered. -/
  | groupsRead
  /-- The next record; the avatar is read if it is the first one of a group. -/
  | proceed (avatar : Option (String × Bytes))

/-- What an emission does to the rest of the program. -/
inductive EmissionEffect where
  | queried
  | emitted (event : Event)
  | indexed (identifier : String) (key : GroupKey)
  deriving DecidableEq

namespace Emission

variable (account : Account) (departed : DepartedGroups)

/-- The next group of a snapshot, which is passed over if it was left. -/
def emitGroup (authoritative : Bool) (key : GroupKey) (group : StoredGroup)
    (groups : List (GroupKey × StoredGroup)) (avatar : Option (String × Bytes)) :
    Emission × List EmissionEffect :=
  let chatId := account.groupIdentifier key
  if departed.contains chatId || !groupContainsLocalAci group.group account.localAci then
    (.emitting authoritative [] groups, [])
  else
    (.emitting authoritative
      ((avatar.map fun image => SnapshotRecord.avatar chatId image.1 image.2).toList ++
        group.members.map (.member chatId)) groups,
      [.indexed chatId key,
        .emitted { kind := .group, chatId := some chatId, title := some group.title }])

def proceed (emission : Emission) (avatar : Option (String × Bytes)) :
    Option (Emission × List EmissionEffect) :=
  match emission with
  | .emitting authoritative (record :: records) groups =>
      some (.emitting authoritative records groups, [.emitted record.event])
  | .emitting authoritative [] ((key, group) :: groups) =>
      some (emitGroup account departed authoritative key group groups avatar)
  | .emitting authoritative [] [] =>
      some (.finished (.ok ()), [.emitted (groupSyncEndEvent authoritative)])
  | .synchronizing | .reading _ | .answered _ _ | .finished _ => none

def step (emission : Emission) :
    EmissionLabel → Option (Emission × List EmissionEffect)
  | .synchronized result =>
      match emission, result with
      | .synchronizing, .ok () => some (.reading true, [])
      | .synchronizing, .error error =>
          some (.finished (.error ("Could not synchronize Signal groups: " ++ error)), [])
      | _, _ => none
  | .queried result =>
      match emission with
      | .reading authoritative => some (.answered authoritative result, [.queried])
      | _ => none
  | .groupsRead =>
      match emission with
      | .answered authoritative (.ok groups) =>
          some (.emitting authoritative [] groups, [.emitted groupSyncBeginEvent])
      | .answered _ (.error error) => some (.finished (.error error.text), [])
      | _ => none
  | .proceed avatar => emission.proceed account departed avatar

/-! ## What one step can do -/

def stage : Emission → Brackets.Stage
  | .synchronizing | .reading _ | .answered _ _ | .finished (.error _) => .unopened
  | .emitting _ _ _ => .opened
  | .finished (.ok ()) => .closed

/-- An emission that can still write. -/
def isActive : Emission → Bool
  | .finished _ => false
  | .synchronizing | .reading _ | .answered _ _ | .emitting _ _ _ => true

/-- Only the first and the last event of a snapshot delimit it. -/
inductive IsRecord : EmissionEffect → Prop
  | queried : IsRecord .queried
  | indexed (identifier : String) (key : GroupKey) : IsRecord (.indexed identifier key)
  | emitted {event : Event}
      (kind : event.kind = .group ∨ event.kind = .avatar ∨ event.kind = .groupMember) :
      IsRecord (.emitted event)

inductive Transition (emission : Emission) : Emission → List EmissionEffect → Prop
  | start {next} (before : emission.stage = .unopened) (after : next.stage = .opened) :
      Transition emission next [.emitted groupSyncBeginEvent]
  | record {next effects} (same : next.stage = emission.stage)
      (records : ∀ effect ∈ effects, IsRecord effect) : Transition emission next effects
  | finish {next} (before : emission.stage = .opened) (after : next.stage = .closed)
      (authoritative : Bool) :
      Transition emission next [.emitted (groupSyncEndEvent authoritative)]

variable {account} {departed} {emission next : Emission} {effects : List EmissionEffect}

theorem transition_of_emitGroup {authoritative : Bool} {records : List SnapshotRecord}
    {key : GroupKey} {group : StoredGroup} {groups all : List (GroupKey × StoredGroup)}
    {avatar : Option (String × Bytes)} :
    Transition (.emitting authoritative records all)
      (emitGroup account departed authoritative key group groups avatar).1
      (emitGroup account departed authoritative key group groups avatar).2 := by
  simp only [emitGroup]
  split
  · exact Transition.record rfl (by simp)
  · refine Transition.record rfl ?_
    intro effect member
    rcases List.mem_cons.mp member with rfl | last
    · exact .indexed _ _
    · rw [List.mem_singleton.mp last]
      exact .emitted (Or.inl rfl)

theorem transition_of_proceed {avatar : Option (String × Bytes)}
    (stepped : emission.proceed account departed avatar = some (next, effects)) :
    Transition emission next effects := by
  cases emission with
  | emitting authoritative records groups =>
      cases records with
      | cons record later =>
          cases stepped
          refine Transition.record rfl ?_
          intro effect member
          rw [List.mem_singleton.mp member]
          exact .emitted (Or.inr record.kind_event)
      | nil =>
          cases groups with
          | cons entry later =>
              rcases Machine.reached_of_some stepped with ⟨rfl, rfl⟩
              exact transition_of_emitGroup
          | nil =>
              cases stepped
              exact Transition.finish rfl rfl _
  | synchronizing | reading | answered | finished => cases stepped

theorem transition_of_step {label : EmissionLabel}
    (stepped : emission.step account departed label = some (next, effects)) :
    Transition emission next effects := by
  cases label with
  | synchronized result =>
      cases emission with
      | synchronizing => cases result <;> cases stepped <;> exact Transition.record rfl (by simp)
      | reading | answered | emitting | finished => cases stepped
  | queried result =>
      cases emission with
      | reading authoritative =>
          cases stepped
          exact Transition.record rfl (by simpa using IsRecord.queried)
      | synchronizing | answered | emitting | finished => cases stepped
  | groupsRead =>
      cases emission with
      | answered authoritative result =>
          cases result with
          | ok groups =>
              cases stepped
              exact Transition.start rfl rfl
          | error error =>
              cases stepped
              exact Transition.record rfl (by simp)
      | synchronizing | reading | emitting | finished => cases stepped
  | proceed avatar => exact transition_of_proceed stepped

end Emission

namespace MetadataCache

def indexEffects (cache : MetadataCache) : List EmissionEffect → MetadataCache
  | [] => cache
  | .queried :: effects | .emitted _ :: effects => indexEffects cache effects
  | .indexed identifier key :: effects => indexEffects (cache.indexGroup identifier key) effects

end MetadataCache

end SignalPurple
