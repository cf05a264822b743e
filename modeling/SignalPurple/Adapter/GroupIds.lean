import SignalPurple.Adapter.GroupJoins
import SignalPurple.Foundation.TwoWay

/-! # Numbers of groups

libpurple knows an open chat by a number. The adapter gives a group a number when it first
needs one, keeps it in two hash tables until the group is deactivated, and finds the group by
it when something is typed into the chat. The conversation may still have the number by then,
and the group a new one.
-/

namespace SignalPurple

/-- A pointer of a system with 64 bits. The tables hold numbers in the place of pointers. -/
abbrev Pointer := UInt64

namespace Pointer

/-- `GUINT_TO_POINTER`. -/
def ofUint (id : UInt32) : Pointer := id.toUInt64

/-- `GINT_TO_POINTER`; a negative number fills the upper half. -/
def ofInt (id : Int32) : Pointer := id.toInt64.toUInt64

/-- `GPOINTER_TO_UINT`. -/
def toUint (pointer : Pointer) : UInt32 := pointer.toUInt32

@[simp] theorem toUint_ofUint (id : UInt32) : toUint (ofUint id) = id := by
  simp [toUint, ofUint]

theorem ofUint_injective : Function.Injective ofUint :=
  Function.LeftInverse.injective toUint_ofUint

theorem eq_of_ofInt_eq {id other : UInt32} (same : ofInt id.toInt32 = ofUint other) :
    id = other := by
  have narrow : other.toUInt64.toInt64.toInt32 = other.toInt32 :=
    Int32.toBitVec_inj.mp (by simp [BitVec.signExtend_eq_setWidth_of_le])
  have signed : id.toInt32 = other.toInt32 := by
    simpa [ofInt, ofUint, narrow] using congrArg (fun pointer => pointer.toInt64.toInt32) same
  simpa using congrArg Int32.toUInt32 signed

end Pointer

inductive GroupIdEntry where
  /-- A number was taken from the counter. -/
  | assigned (id : UInt32) (groupKey : String)
  /-- `signal_group_id` returned. -/
  | handedOut (id : UInt32) (groupKey : String)
  /-- What was typed into the chat of this number went to the group. -/
  | sent (id : Int32) (requestId : UInt64) (groupKey : String)
  deriving DecidableEq

def GroupIdEntry.isAssigned : GroupIdEntry → Bool
  | .assigned _ _ => true
  | .handedOut _ _ | .sent _ _ _ => false

/-- `group_ids_by_key` and `group_keys_by_id`, and the counter. -/
structure GroupIds where
  tables : TwoWay String Pointer := {}
  nextGroupId : UInt32 := 1

inductive GroupIdUse where
  /-- `signal_group_id`. -/
  | take (groupKey : String)
  /-- `signal_deactivate_group`. -/
  | drop (groupKey : String)

namespace GroupIds

def groupId (ids : GroupIds) (groupKey : String) : GroupIds × List GroupIdEntry :=
  match ids.tables.tagOf groupKey with
  | some existing => (ids, [.handedOut existing.toUint groupKey])
  | none =>
      let id := ids.nextGroupId
      ({ tables := ids.tables.insert groupKey (Pointer.ofUint id)
         nextGroupId := ids.nextGroupId + 1 },
        [.assigned id groupKey, .handedOut id groupKey])

def use (ids : GroupIds) : GroupIdUse → GroupIds × List GroupIdEntry
  | .take groupKey => ids.groupId groupKey
  | .drop groupKey => ({ ids with tables := ids.tables.remove groupKey }, [])

def useAll : GroupIds → List GroupIdUse → GroupIds × List GroupIdEntry
  | ids, [] => (ids, [])
  | ids, first :: later =>
      let used := ids.use first
      let rest := useAll used.1 later
      (rest.1, used.2 ++ rest.2)

/-- `signal_chat_send` and the other functions that are given a chat by its number. -/
def groupKeyOf (ids : GroupIds) (id : Int32) : Option String :=
  ids.tables.keyOf (Pointer.ofInt id)

end GroupIds

/-- Opening a group takes its number, deactivating it gives the number up. -/
def JoinEntry.uses : JoinEntry → List GroupIdUse
  | .opened groupKey | .openedFreed groupKey => [.take groupKey]
  | .deactivated groupKey => [.drop groupKey]
  | .deferred _ | .authoritativeEnd _ => []

namespace Reconciler

variable (account : AccountId) (library : BuddyListLibrary)

def usesOfHandler (moment : Surroundings) (state : Reconciler) (event : SignalEvent) :
    Handler → List GroupIdUse
  | .addGroup => if isBlank event.chatId then [] else [.take (event.chatId.getD "")]
  | handler => (state.handled account moment event handler).flatMap JoinEntry.uses

/-- What the calls of one event do to the tables, one after the other. A message asks for the
number once more when it is shown. -/
def usesOfCalls (moment : Surroundings) (event : SignalEvent) :
    Reconciler → List AdapterCall → List GroupIdUse
  | _, [] => []
  | state, .called handler :: later =>
      state.usesOfHandler account moment event handler ++
        usesOfCalls moment event (state.effect account library moment event handler) later
  | state, .gotChat _ _ _ _ :: later =>
      .take (event.chatId.getD "") :: usesOfCalls moment event state later
  | state, _ :: later => usesOfCalls moment event state later

end Reconciler

inductive GroupIdLabel where
  | joinChat (component legacyComponent : Option String)
  | event (event : SignalEvent) (moment : Surroundings)
  | groupSyncTimeout (walk : Walk)
  | close
  | requestLeave (chat : Chat) (asked : Bool)
  | cancelLeave (request : GroupLeaveRequest)
  | confirmLeave (request : GroupLeaveRequest) (status : Int)
  /-- A message is typed; its conversation and text may be unfit. -/
  | chatSend (id : Int32) (fit : Bool) (status : Int)

structure GroupIdRun extends LeaveRun where
  ids : GroupIds := {}

namespace GroupIdRun

variable (account : AccountId) (library : BuddyListLibrary)

def chatSend (run : GroupIdRun) (id : Int32) (fit : Bool) (status : Int) :
    GroupIdRun × List GroupIdEntry :=
  match run.ids.groupKeyOf id with
  | none => (run, [])
  | some groupKey =>
      let sent := run.toLeaveRun.chatSend groupKey fit status
      ({ run with toLeaveRun := sent.1 },
        sent.2.filterMap fun
          | .queuedMessage requestId sentTo => some (.sent id requestId sentTo)
          | _ => none)

def joined (run : GroupIdRun) (result : Reconciler × List JoinEntry) :
    GroupIdRun × List GroupIdEntry :=
  let used := run.ids.useAll (result.2.flatMap JoinEntry.uses)
  ({ run with connection := result.1, ids := used.1 }, used.2)

def handleEvent (run : GroupIdRun) (event : SignalEvent) (moment : Surroundings) :
    GroupIdRun × List GroupIdEntry :=
  let dispatched := run.connection.dispatched account library moment event
  let used := run.ids.useAll
    (Reconciler.usesOfCalls account library moment event run.connection dispatched.calls)
  ({ run with
      toLeaveRun := (run.toLeaveRun.handleEvent account library event moment).1
      ids := used.1 }, used.2)

/-- The requests for a leave do not come to the tables before the core has answered. -/
def leaving (run : GroupIdRun) (label : LeaveLabel) : Option (GroupIdRun × List GroupIdEntry) :=
  (run.toLeaveRun.step account library label).map fun next =>
    ({ run with toLeaveRun := next.1 }, [])

def step (run : GroupIdRun) : GroupIdLabel → Option (GroupIdRun × List GroupIdEntry)
  | .joinChat component legacyComponent =>
      some (run.joined (run.connection.joinChat component legacyComponent))
  | .event event moment => some (run.handleEvent account library event moment)
  | .groupSyncTimeout walk =>
      if run.connection.groupSyncFallbackTimer then
        some (run.joined (run.connection.groupSyncTimeout walk))
      else none
  | .close => some ({ run with connection := { run.connection with closing := true } }, [])
  | .requestLeave chat asked => run.leaving account library (.requestLeave chat asked)
  | .cancelLeave request => run.leaving account library (.cancelLeave request)
  | .confirmLeave request status => run.leaving account library (.confirmLeave request status)
  | .chatSend id fit status => some (run.chatSend id fit status)

def machine (list : BuddyList) : Machine GroupIdRun GroupIdLabel GroupIdEntry where
  initial := { connection := Reconciler.initial {} list }
  step := step account library

end GroupIdRun

/-! ## A number belongs to one group -/

/-- The counter has not come round to zero. -/
def FewAssigned (history : List GroupIdEntry) : Prop :=
  history.countP GroupIdEntry.isAssigned < 2 ^ 32 - 1

theorem fewAssigned_of_append {history entries : List GroupIdEntry}
    (few : FewAssigned (history ++ entries)) : FewAssigned history := by
  unfold FewAssigned at few ⊢
  rw [List.countP_append] at few
  omega

namespace GroupIds

/-- The tables hold what was assigned, and only numbers that the counter has passed were. -/
structure Tracked (ids : GroupIds) (history : List GroupIdEntry) : Prop where
  inverse : ids.tables.Inverse
  counter : ids.nextGroupId.toNat = history.countP GroupIdEntry.isAssigned + 1
  known : ∀ pointer groupKey, ids.tables.keyOf pointer = some groupKey →
    ∃ id, pointer = Pointer.ofUint id ∧ .assigned id groupKey ∈ history
  passed : ∀ id groupKey, .assigned id groupKey ∈ history →
    id ≠ 0 ∧ id.toNat < ids.nextGroupId.toNat
  once : ∀ id one other, .assigned id one ∈ history → .assigned id other ∈ history → one = other
  handedOut : ∀ id groupKey, .handedOut id groupKey ∈ history → .assigned id groupKey ∈ history
  sent : ∀ id requestId groupKey, .sent id requestId groupKey ∈ history →
    ∃ number, Pointer.ofInt id = Pointer.ofUint number ∧ .assigned number groupKey ∈ history

variable {ids : GroupIds} {history : List GroupIdEntry}

theorem tracked_initial : Tracked {} [] where
  inverse := TwoWay.inverse_empty
  counter := rfl
  known := by simp
  passed := by simp
  once := by simp
  handedOut := by simp
  sent := by simp

theorem Tracked.number_of_tagOf (tracked : ids.Tracked history) {groupKey : String}
    {pointer : Pointer} (found : ids.tables.tagOf groupKey = some pointer) :
    .assigned pointer.toUint groupKey ∈ history := by
  rcases tracked.known pointer groupKey ((tracked.inverse.tagOf_iff _ _).mp found) with
    ⟨id, rfl, assigned⟩
  rwa [Pointer.toUint_ofUint]

theorem Tracked.next_is_new (tracked : ids.Tracked history) :
    ids.tables.keyOf (Pointer.ofUint ids.nextGroupId) = none := by
  by_contra present
  rcases Option.ne_none_iff_exists'.mp present with ⟨groupKey, found⟩
  rcases tracked.known _ _ found with ⟨id, same, assigned⟩
  have isNext : ids.nextGroupId = id := Pointer.ofUint_injective same
  have before := (tracked.passed id groupKey assigned).2
  rw [isNext] at before
  exact lt_irrefl _ before

theorem Tracked.handOut (tracked : ids.Tracked history) {id : UInt32} {groupKey : String}
    (assigned : .assigned id groupKey ∈ history) :
    ids.Tracked (history ++ [.handedOut id groupKey]) where
  inverse := tracked.inverse
  counter := by simp [tracked.counter, GroupIdEntry.isAssigned]
  known := by simpa using tracked.known
  passed := by simpa using tracked.passed
  once := by simpa using tracked.once
  handedOut := by
    intro other key member
    rcases List.mem_append.mp member with before | isNew
    · exact List.mem_append_left _ (tracked.handedOut other key before)
    · simp only [List.mem_singleton, GroupIdEntry.handedOut.injEq] at isNew
      rw [isNew.1, isNew.2]
      exact List.mem_append_left _ assigned
  sent := by simpa using tracked.sent

theorem Tracked.assign (tracked : ids.Tracked history) {groupKey : String}
    (new : ids.tables.tagOf groupKey = none)
    (few : FewAssigned (history ++ [.assigned ids.nextGroupId groupKey])) :
    Tracked { tables := ids.tables.insert groupKey (Pointer.ofUint ids.nextGroupId)
              nextGroupId := ids.nextGroupId + 1 }
      (history ++ [.assigned ids.nextGroupId groupKey]) := by
  have counter := tracked.counter
  have next : (ids.nextGroupId + 1).toNat = ids.nextGroupId.toNat + 1 := by
    have bounded : history.countP GroupIdEntry.isAssigned + 1 < 2 ^ 32 - 1 := by
      simpa [FewAssigned, GroupIdEntry.isAssigned] using few
    rw [UInt32.toNat_add, counter, UInt32.toNat_one, Nat.mod_eq_of_lt (by omega)]
  have notPassed : ∀ other, .assigned ids.nextGroupId other ∉ history := fun other assigned =>
    lt_irrefl _ (tracked.passed _ other assigned).2
  constructor
  case inverse => exact tracked.inverse.insert new tracked.next_is_new
  case counter => simp [next, counter, GroupIdEntry.isAssigned]
  case known =>
    intro pointer key found
    by_cases isNew : pointer = Pointer.ofUint ids.nextGroupId
    · have isKey : groupKey = key := by simpa [TwoWay.insert, isNew] using found
      exact ⟨ids.nextGroupId, isNew, by simp [isKey]⟩
    · have before : ids.tables.keyOf pointer = some key := by
        simpa [TwoWay.insert, Function.update_of_ne isNew] using found
      rcases tracked.known pointer key before with ⟨id, same, assigned⟩
      exact ⟨id, same, List.mem_append_left _ assigned⟩
  case passed =>
    intro id key member
    rw [next]
    rcases List.mem_append.mp member with before | isNew
    · rcases tracked.passed id key before with ⟨nonzero, less⟩
      exact ⟨nonzero, less.trans (Nat.lt_succ_self _)⟩
    · simp only [List.mem_singleton, GroupIdEntry.assigned.injEq] at isNew
      rw [isNew.1]
      refine ⟨fun isZero => ?_, Nat.lt_succ_self _⟩
      simp [isZero] at counter
  case once =>
    intro id one other first second
    simp only [List.mem_append, List.mem_singleton, GroupIdEntry.assigned.injEq] at first second
    rcases first with first | ⟨isNext, rfl⟩ <;> rcases second with second | ⟨same, rfl⟩
    · exact tracked.once id one other first second
    · exact absurd (same ▸ first) (notPassed one)
    · exact absurd (isNext ▸ second) (notPassed other)
    · rfl
  case handedOut =>
    intro id key member
    exact List.mem_append_left _ (tracked.handedOut id key (by simpa using member))
  case sent =>
    intro id requestId key member
    rcases tracked.sent id requestId key (by simpa using member) with ⟨number, same, assigned⟩
    exact ⟨number, same, List.mem_append_left _ assigned⟩

theorem Tracked.send (tracked : ids.Tracked history) {id : Int32} {groupKey : String}
    (found : ids.groupKeyOf id = some groupKey) (requestId : UInt64) :
    ids.Tracked (history ++ [.sent id requestId groupKey]) where
  inverse := tracked.inverse
  counter := by simp [tracked.counter, GroupIdEntry.isAssigned]
  known := by simpa using tracked.known
  passed := by simpa using tracked.passed
  once := by simpa using tracked.once
  handedOut := by simpa using tracked.handedOut
  sent := by
    intro other request key member
    rcases List.mem_append.mp member with before | isNew
    · rcases tracked.sent other request key before with ⟨number, same, assigned⟩
      exact ⟨number, same, List.mem_append_left _ assigned⟩
    · simp only [List.mem_singleton, GroupIdEntry.sent.injEq] at isNew
      rcases tracked.known _ _ found with ⟨number, same, assigned⟩
      rw [isNew.1, isNew.2.2]
      exact ⟨number, same, List.mem_append_left _ assigned⟩

theorem Tracked.use (tracked : ids.Tracked history) (first : GroupIdUse)
    (few : FewAssigned (history ++ (ids.use first).2)) :
    (ids.use first).1.Tracked (history ++ (ids.use first).2) := by
  cases first with
  | take groupKey =>
      simp only [GroupIds.use, groupId] at few ⊢
      cases found : ids.tables.tagOf groupKey with
      | some existing => exact tracked.handOut (tracked.number_of_tagOf found)
      | none =>
          simp only [found] at few
          rw [List.append_cons] at few ⊢
          refine (tracked.assign found (fewAssigned_of_append few)).handOut ?_
          simp
  | drop groupKey =>
      rw [GroupIds.use, List.append_nil]
      exact { tracked with
        inverse := tracked.inverse.remove groupKey
        known := fun pointer key found => tracked.known pointer key (TwoWay.keyOf_of_remove found) }

theorem Tracked.useAll (tracked : ids.Tracked history) (uses : List GroupIdUse)
    (few : FewAssigned (history ++ (ids.useAll uses).2)) :
    (ids.useAll uses).1.Tracked (history ++ (ids.useAll uses).2) := by
  induction uses generalizing ids history with
  | nil => simpa [GroupIds.useAll] using tracked
  | cons first later induction =>
      simp only [GroupIds.useAll, ← List.append_assoc] at few ⊢
      exact induction (tracked.use first (fewAssigned_of_append few)) few

end GroupIds

namespace GroupIdRun

variable {account : AccountId} {library : BuddyListLibrary} {run next : GroupIdRun}
  {history entries : List GroupIdEntry}

theorem tracked_chatSend (tracked : run.ids.Tracked history) (id : Int32) (fit : Bool)
    (status : Int) :
    (run.chatSend id fit status).1.ids.Tracked (history ++ (run.chatSend id fit status).2) := by
  unfold chatSend
  split
  next => simpa using tracked
  next groupKey found =>
  simp only [LeaveRun.chatSend]
  split_ifs
  · simpa using tracked
  · exact tracked.send found _
  · simpa using tracked

theorem tracked_step {label : GroupIdLabel} (tracked : run.ids.Tracked history)
    (stepped : run.step account library label = some (next, entries))
    (few : FewAssigned (history ++ entries)) : next.ids.Tracked (history ++ entries) := by
  have leaving : ∀ request, run.leaving account library request = some (next, entries) →
      next.ids.Tracked (history ++ entries) := by
    intro request left
    rcases Option.map_eq_some_iff.mp left with ⟨_, -, reached⟩
    cases reached
    simpa using tracked
  cases label with
  | joinChat component legacyComponent =>
      cases stepped
      exact tracked.useAll _ few
  | event event moment =>
      cases stepped
      exact tracked.useAll _ few
  | groupSyncTimeout walk =>
      simp only [step] at stepped
      split at stepped
      · cases stepped
        exact tracked.useAll _ few
      · cases stepped
  | close =>
      cases stepped
      simpa using tracked
  | requestLeave chat asked => exact leaving _ stepped
  | cancelLeave request => exact leaving _ stepped
  | confirmLeave request status => exact leaving _ stepped
  | chatSend id fit status =>
      rcases Machine.reached_of_some stepped with ⟨rfl, rfl⟩
      exact tracked_chatSend tracked id fit status

structure GroupIdLaw (ids : GroupIds) (history : List GroupIdEntry) : Prop where
  inverse : ids.tables.Inverse
  nonzero : ∀ groupKey pointer, ids.tables.tagOf groupKey = some pointer → pointer.toUint ≠ 0 ∧
    pointer = Pointer.ofUint pointer.toUint
  handedOut : ∀ id groupKey, .handedOut id groupKey ∈ history →
    id ≠ 0 ∧ .assigned id groupKey ∈ history
  once : ∀ id one other, .assigned id one ∈ history → .assigned id other ∈ history → one = other
  sent : ∀ id requestId groupKey other, .handedOut id groupKey ∈ history →
    .sent id.toInt32 requestId other ∈ history → other = groupKey

/-- As long as the counter does not come round, the two tables agree, and a number is never
given to a second group. -/
theorem groupIdLaw_of_run (list : BuddyList) {labels : List GroupIdLabel}
    (few : FewAssigned history)
    (runs : (machine account library list).run labels = some (run, history)) :
    GroupIdLaw run.ids history := by
  have tracked : run.ids.Tracked history :=
    @Machine.run_invariant _ _ _ (machine account library list)
      (fun run history => FewAssigned history → run.ids.Tracked history)
      (fun _ => GroupIds.tracked_initial)
      (fun _ _ _ _ _ holds stepped few =>
        tracked_step (holds (fewAssigned_of_append few)) stepped few)
      labels run history runs few
  refine ⟨tracked.inverse, fun groupKey pointer found => ?_, fun id groupKey out => ?_,
    tracked.once, fun id requestId groupKey other out isSent => ?_⟩
  · refine ⟨(tracked.passed _ _ (tracked.number_of_tagOf found)).1, ?_⟩
    rcases tracked.known _ _ ((tracked.inverse.tagOf_iff _ _).mp found) with ⟨id, rfl, -⟩
    rw [Pointer.toUint_ofUint]
  · have assigned := tracked.handedOut id groupKey out
    exact ⟨(tracked.passed id groupKey assigned).1, assigned⟩
  · rcases tracked.sent _ _ _ isSent with ⟨number, same, assigned⟩
    cases Pointer.eq_of_ofInt_eq same
    exact tracked.once id other groupKey assigned (tracked.handedOut id groupKey out)

/-- A group is opened, left, and opened again; the chat still has its first number when the
next messages are typed. -/
def reopened : List GroupIdLabel :=
  let handled (event : Event) : GroupIdLabel :=
    .event (.ofEvent event) LeaveRun.plainSurroundings
  let listed : List GroupIdLabel :=
    [handled { kind := .groupSyncBegin }, handled { kind := .group, chatId := some "team" },
      handled { kind := .groupSyncEnd, value := 1 }, .joinChat (some "team") none]
  listed ++ [.chatSend 1 true 0, handled { kind := .groupLeft, chatId := some "team" }] ++
    listed ++ [.chatSend 1 true 0, .chatSend 2 true 0]

theorem groupIdLaw_of_reopened :
    ∃ run history, (machine 1 Reconciler.englishLibrary {}).run reopened = some (run, history) ∧
      history = [.assigned 1 "team", .handedOut 1 "team", .handedOut 1 "team", .sent 1 1 "team",
        .assigned 2 "team", .handedOut 2 "team", .handedOut 2 "team", .sent 2 2 "team"] ∧
      GroupIdLaw run.ids history := by
  have reached : ((machine 1 Reconciler.englishLibrary {}).run reopened).any (fun reached =>
      decide (reached.2 = [.assigned 1 "team", .handedOut 1 "team", .handedOut 1 "team",
        .sent 1 1 "team", .assigned 2 "team", .handedOut 2 "team", .handedOut 2 "team",
        .sent 2 2 "team"])) = true := by
    decide +kernel
  rcases (Option.any_eq_true _ _).mp reached with ⟨⟨run, history⟩, runs, isHistory⟩
  have shown := of_decide_eq_true isHistory
  refine ⟨run, history, runs, shown, groupIdLaw_of_run {} ?_ runs⟩
  rw [show history = _ from shown]
  unfold FewAssigned
  decide

end GroupIdRun

end SignalPurple
