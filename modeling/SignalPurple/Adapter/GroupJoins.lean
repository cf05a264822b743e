import SignalPurple.Adapter.GroupLeave
import SignalPurple.Foundation.History
import SignalPurple.Foundation.Machine
import SignalPurple.Foundation.TableOrder

/-! # Deferred joins

A chat that is joined before the groups are known waits in a hash table. It is opened when a
snapshot lists its group, when a message comes for it, or when the fallback timer fires. The
first two hand `signal_open_group` a copy of the key. The timer hands it the key that the table
owns, and `signal_open_group` begins with removing that key from the table.
-/

namespace SignalPurple

/-- A deferred join is over: its group was opened, deactivated or not listed. -/
def JoinEntry.Ends (groupKey : String) : JoinEntry → Prop
  | .opened other | .deactivated other => other = groupKey
  | .authoritativeEnd listed => groupKey ∉ listed
  | .deferred _ | .openedFreed _ => False

inductive JoinLabel where
  /-- The two components under which a saved chat may have its group. -/
  | joinChat (component legacyComponent : Option String)
  | event (event : SignalEvent) (moment : Surroundings)
  | groupSyncTimeout (walk : Walk)
  | close

namespace Reconciler

section Steps

variable (account : AccountId) (library : BuddyListLibrary)

def joinChat (state : Reconciler) (component legacyComponent : Option String) :
    Reconciler × List JoinEntry :=
  let component := component <|> legacyComponent
  let groupKey := component.getD ""
  if state.closing || isBlank component then (state, [])
  else if state.groupIsActive groupKey then (state.openGroup groupKey none, [.opened groupKey])
  else if !state.groupSnapshotComplete then
    ({ state with pendingGroupJoins := insert groupKey state.pendingGroupJoins },
      [.deferred groupKey])
  else if groupKey ∈ state.pendingGroupLeaves then (state, [])
  else (state.openGroup groupKey none, [.opened groupKey])

def handled (moment : Surroundings) (state : Reconciler) (event : SignalEvent) :
    Handler → List JoinEntry
  | .openGroup => [.opened (event.chatId.getD "")]
  | .deactivateGroup => if isBlank event.chatId then [] else [.deactivated (event.chatId.getD "")]
  | .endGroupSync => (state.endGroupSync account moment.walk event.value).2
  | _ => []

def handledAll (moment : Surroundings) (event : SignalEvent) :
    Reconciler → List Handler → List JoinEntry
  | _, [] => []
  | state, handler :: later =>
      state.handled account moment event handler ++
        handledAll moment event (state.effect account library moment event handler) later

/-- `signal_open_group` with a key that the table of pending joins owns. -/
def openPendingGroup (state : Reconciler) (groupKey : String) : Reconciler × List JoinEntry :=
  (state.openGroup groupKey none, [.openedFreed groupKey])

def groupSyncTimeout (walk : Walk) (state : Reconciler) : Reconciler × List JoinEntry :=
  let fired := { state with groupSyncFallbackTimer := false }
  if fired.groupSnapshotComplete then (fired, [])
  else
    let complete := { fired with groupSnapshotComplete := true }
    let opened := iterateTable (·.pendingGroupJoins) openPendingGroup
      (walk.listKeys complete.pendingGroupJoins) complete
    ({ opened.1 with pendingGroupJoins := ∅ }, opened.2)

def stepJoins (state : Reconciler) : JoinLabel → Option (Reconciler × List JoinEntry)
  | .joinChat component legacyComponent => some (state.joinChat component legacyComponent)
  | .event event moment =>
      some (state.afterEvent account library moment event,
        handledAll account library moment event state
          (calledHandlers (state.dispatched account library moment event).calls))
  | .groupSyncTimeout walk =>
      if state.groupSyncFallbackTimer then some (state.groupSyncTimeout walk) else none
  | .close => some ({ state with closing := true }, [])

def joinMachine (adapter : AdapterState) (list : BuddyList) :
    Machine Reconciler JoinLabel JoinEntry where
  initial := initial adapter list
  step := stepJoins account library

end Steps

/-! ## No join is lost -/

/-- A join is pending exactly from when it is deferred until it is over. -/
structure JoinLaw (state : Reconciler) (history : List JoinEntry) : Prop where
  pending : ∀ groupKey, groupKey ∈ state.pendingGroupJoins ↔
    History.Since (· = .deferred groupKey) (JoinEntry.Ends groupKey) history
  valid : ∀ groupKey, .openedFreed groupKey ∉ history

/-- The timer fires only when nothing waits for it. -/
def NoneAtTimeout (state : Reconciler) : JoinLabel → Prop
  | .groupSyncTimeout _ => state.groupSnapshotComplete = true ∨ state.pendingGroupJoins = ∅
  | _ => True

variable {account : AccountId} {library : BuddyListLibrary} {moment : Surroundings} {walk : Walk}
  {state next : Reconciler} {event : SignalEvent} {history entries : List JoinEntry}

structure Settles (state next : Reconciler) (entries : List JoinEntry) : Prop where
  pending : ∀ groupKey, groupKey ∈ next.pendingGroupJoins ↔
    groupKey ∈ state.pendingGroupJoins ∧ ∀ entry ∈ entries, ¬entry.Ends groupKey
  noneDeferred : ∀ groupKey, .deferred groupKey ∉ entries
  noneFreed : ∀ groupKey, .openedFreed groupKey ∉ entries

namespace Settles

theorem same (samePending : next.pendingGroupJoins = state.pendingGroupJoins) :
    Settles state next [] :=
  ⟨by simp [samePending], by simp, by simp⟩

theorem opened (groupKey : String)
    (erased : next.pendingGroupJoins = state.pendingGroupJoins.erase groupKey) :
    Settles state next [.opened groupKey] :=
  ⟨by simp [erased, JoinEntry.Ends, eq_comm, and_comm], by simp, by simp⟩

theorem deactivated (groupKey : String)
    (erased : next.pendingGroupJoins = state.pendingGroupJoins.erase groupKey) :
    Settles state next [.deactivated groupKey] :=
  ⟨by simp [erased, JoinEntry.Ends, eq_comm, and_comm], by simp, by simp⟩

theorem trans {middle : Reconciler} {later : List JoinEntry} (first : Settles state middle entries)
    (second : Settles middle next later) : Settles state next (entries ++ later) where
  pending groupKey := by
    rw [second.pending, first.pending, and_assoc, List.forall_mem_append]
  noneDeferred groupKey := by simp [first.noneDeferred, second.noneDeferred]
  noneFreed groupKey := by simp [first.noneFreed, second.noneFreed]

theorem law (settles : Settles state next entries) (holds : state.JoinLaw history) :
    next.JoinLaw (history ++ entries) where
  pending groupKey := by
    rw [settles.pending, holds.pending, History.since_append_of_no_start]
    rintro entry member rfl
    exact settles.noneDeferred groupKey member
  valid groupKey := by simp [holds.valid, settles.noneFreed]

end Settles

theorem forall_not_ends_opened {keys : List String} {groupKey : String} :
    (∀ entry ∈ keys.map JoinEntry.opened, ¬entry.Ends groupKey) ↔ groupKey ∉ keys := by
  rw [List.forall_mem_map]
  constructor
  · exact fun stays member => stays groupKey member rfl
  · rintro absent other member rfl
    exact absent member

theorem settles_endGroupSync (value : Int) :
    Settles state (state.endGroupSync account walk value).1
      (state.endGroupSync account walk value).2 := by
  simp only [endGroupSync, foldl_deactivateGroup _ named_staleGroups, takeActiveJoins]
  split
  next => exact Settles.same rfl
  next =>
    split
    next =>
      refine ⟨?_, by simp, by simp⟩
      intro groupKey
      simp only [if_true, Finset.notMem_empty, false_iff, not_and, not_forall, not_not]
      intro pending
      by_cases stale : groupKey ∈ walk.listKeys state.staleGroups
      · exact ⟨.deactivated groupKey, by simpa using stale, rfl⟩
      · by_cases listed : groupKey ∈ state.groupSync.seen
        · refine ⟨.opened groupKey, ?_, rfl⟩
          have taken : groupKey ∈ walk.listKeys
              ((state.pendingGroupJoins \ (walk.listKeys state.staleGroups).toFinset) ∩
                state.groupSync.seen) := by
            simp only [walk.mem_listKeys, Finset.mem_inter, Finset.mem_sdiff, List.mem_toFinset]
            exact ⟨⟨pending, by simpa [walk.mem_listKeys] using stale⟩, listed⟩
          simp [taken]
        · exact ⟨.authoritativeEnd state.groupSync.seen, by simp, listed⟩
    next =>
      refine ⟨?_, by simp, by simp⟩
      intro groupKey
      rw [forall_not_ends_opened, walk.mem_listKeys, Finset.mem_inter]
      simp only [Bool.false_eq_true, if_false, Finset.mem_sdiff]
      tauto

theorem isBlank_iff {text : Option String} : isBlank text = true ↔ text.getD "" = "" := by
  cases text <;> simp [isBlank]

theorem settles_deactivateGroup (chatId : Option String) :
    Settles state (state.deactivateGroup account true (chatId.getD ""))
      (if isBlank chatId then [] else [.deactivated (chatId.getD "")]) := by
  unfold deactivateGroup
  simp only [isBlank_iff]
  split
  · exact Settles.same rfl
  · exact Settles.deactivated _ rfl

theorem settles_effect (handler : Handler) :
    Settles state (state.effect account library moment event handler)
      (state.handled account moment event handler) := by
  cases handler with
  | endGroupSync => exact settles_endGroupSync event.value
  | openGroup => exact Settles.opened _ rfl
  | deactivateGroup =>
      exact settles_deactivateGroup event.chatId
  | addContact =>
      apply Settles.same
      simp only [effect, addContact]
      split <;> rfl
  | endContactSync =>
      apply Settles.same
      simp only [effect, endContactSync]
      split <;> rfl
  | addGroup =>
      apply Settles.same
      simp only [effect, addGroup]
      split <;> rfl
  | _ => exact Settles.same rfl

theorem settles_handlers (handlers : List Handler) :
    Settles state (handlers.foldl (fun rest handler =>
        rest.effect account library moment event handler) state)
      (handledAll account library moment event state handlers) := by
  induction handlers generalizing state with
  | nil => exact Settles.same rfl
  | cons handler later induction => exact (settles_effect handler).trans induction

theorem JoinLaw.joinChat (holds : state.JoinLaw history)
    (component legacyComponent : Option String) :
    (state.joinChat component legacyComponent).1.JoinLaw
      (history ++ (state.joinChat component legacyComponent).2) := by
  unfold Reconciler.joinChat
  dsimp only
  generalize (component <|> legacyComponent) = found
  have unchanged : Settles state state [] := Settles.same rfl
  split
  next => exact unchanged.law holds
  next =>
    split
    next => exact (Settles.opened _ rfl).law holds
    next =>
      split
      next =>
        refine ⟨?_, by simpa using holds.valid⟩
        intro groupKey
        rw [Finset.mem_insert, holds.pending, History.since_concat, JoinEntry.deferred.injEq]
        simp [JoinEntry.Ends, eq_comm]
      next =>
        split
        next => exact unchanged.law holds
        next => exact (Settles.opened _ rfl).law holds

theorem settles_groupSyncTimeout (noneWait : state.groupSnapshotComplete = true ∨
      state.pendingGroupJoins = ∅) :
    Settles state (state.groupSyncTimeout walk).1 (state.groupSyncTimeout walk).2 := by
  unfold groupSyncTimeout
  dsimp only
  split
  next => exact Settles.same rfl
  next incomplete =>
    have noJoins := noneWait.resolve_left incomplete
    have noKeys : walk.listKeys state.pendingGroupJoins = [] := by
      rw [List.eq_nil_iff_forall_not_mem]
      simp [walk.mem_listKeys, noJoins]
    rw [noKeys]
    exact Settles.same noJoins.symm

theorem JoinLaw.step (holds : state.JoinLaw history) {label : JoinLabel}
    (noneWait : state.NoneAtTimeout label)
    (stepped : state.stepJoins account library label = some (next, entries)) :
    next.JoinLaw (history ++ entries) := by
  cases label with
  | joinChat component legacyComponent =>
      obtain ⟨rfl, rfl⟩ := Machine.reached_of_some stepped
      exact holds.joinChat component legacyComponent
  | event event moment =>
      obtain ⟨rfl, rfl⟩ := Machine.reached_of_some stepped
      have settles : Settles state (state.afterEvent account library moment event) _ :=
        ⟨(settles_handlers _).pending, (settles_handlers _).noneDeferred,
          (settles_handlers _).noneFreed⟩
      exact settles.law holds
  | groupSyncTimeout walk =>
      simp only [stepJoins, Option.ite_none_right_eq_some] at stepped
      obtain ⟨rfl, rfl⟩ := Machine.reached_of_some stepped.2
      exact (settles_groupSyncTimeout noneWait).law holds
  | close =>
      obtain ⟨rfl, rfl⟩ := Machine.reached_of_some stepped
      have settles : Settles state { state with closing := true } [] := Settles.same rfl
      exact settles.law holds

/-- As long as the timer finds nothing to open, no deferred join is lost. -/
theorem joinLaw_of_run (adapter : AdapterState) (list : BuddyList) {labels : List JoinLabel}
    (noneWait : (joinMachine account library adapter list).StepsMeet NoneAtTimeout
      (joinMachine account library adapter list).initial labels)
    (reached : (joinMachine account library adapter list).run labels = some (state, history)) :
    state.JoinLaw history := by
  have starts : (joinMachine account library adapter list).initial.JoinLaw [] :=
    ⟨by simp [joinMachine, initial], by simp⟩
  exact Machine.run_invariant_of_steps _ starts
    (fun _ _ _ _ _ holds meets stepped => holds.step meets stepped) noneWait reached

/-- Two chats are joined before the groups are known, and the timer is armed. -/
def twoJoins : List JoinLabel :=
  [.joinChat (some "one") none, .joinChat none (some "two"),
    .event (.ofEvent { kind := .ready }) LeaveRun.plainSurroundings]

/-- The local store lists the group that waits, so the timer finds nothing. Another group is
joined while the network lists both. -/
def joinsListed : List JoinLabel :=
  let event (event : Event) : JoinLabel := .event (.ofEvent event) LeaveRun.plainSurroundings
  [.joinChat (some "one") none, event { kind := .ready },
    event { kind := .groupSyncBegin }, event { kind := .group, chatId := some "one" },
    event { kind := .groupSyncEnd, value := 0 }, .groupSyncTimeout Walk.inOrder,
    event { kind := .groupSyncBegin }, .joinChat none (some "two"),
    event { kind := .group, chatId := some "one" }, event { kind := .group, chatId := some "two" },
    event { kind := .groupSyncEnd, value := 1 }]

def checkNoneAtTimeout (state : Reconciler) : JoinLabel → Bool
  | .groupSyncTimeout _ => state.groupSnapshotComplete || decide (state.pendingGroupJoins = ∅)
  | _ => true

theorem noneAtTimeout_of_check (state : Reconciler) (label : JoinLabel)
    (checked : state.checkNoneAtTimeout label = true) : state.NoneAtTimeout label := by
  cases label <;> simp_all [NoneAtTimeout, checkNoneAtTimeout]

theorem joinLaw_of_joinsListed :
    ∃ state history,
      (joinMachine 1 englishLibrary {} {}).run joinsListed = some (state, history) ∧
        state.pendingGroupJoins = ∅ ∧ state.activeGroupKeys = {"one", "two"} ∧
        state.JoinLaw history := by
  have reached : ((joinMachine 1 englishLibrary {} {}).run joinsListed).any (fun reached =>
      decide (reached.1.pendingGroupJoins = ∅) &&
        decide (reached.1.activeGroupKeys = {"one", "two"})) = true := by
    decide +kernel
  have noneWait : (joinMachine 1 englishLibrary {} {}).StepsMeet NoneAtTimeout
      (joinMachine 1 englishLibrary {} {}).initial joinsListed := by
    apply Machine.stepsMeet_of_checkSteps _ noneAtTimeout_of_check
    decide +kernel
  rcases (Option.any_eq_true _ _).mp reached with ⟨⟨state, history⟩, runs, facts⟩
  simp only [Bool.and_eq_true, decide_eq_true_eq] at facts
  exact ⟨state, history, runs, facts.1, facts.2, joinLaw_of_run {} {} noneWait runs⟩

/-- Whatever waits for the timer, only the key that it finds first is opened, and that one is
freed meanwhile. -/
theorem groupSyncTimeout_of_joins (walk : Walk) (incomplete : state.groupSnapshotComplete = false)
    (someWait : state.pendingGroupJoins.Nonempty) :
    ∃ first, (state.groupSyncTimeout walk).2 = [.openedFreed first] ∧
      (state.groupSyncTimeout walk).1.pendingGroupJoins = ∅ := by
  obtain ⟨waiting, isWaiting⟩ := someWait
  rcases keys : walk.listKeys state.pendingGroupJoins with - | ⟨first, later⟩
  · have listed := (walk.mem_listKeys _ _).mpr isWaiting
    rw [keys] at listed
    cases listed
  · have isFirst : first ∈ state.pendingGroupJoins := by
      rw [← walk.mem_listKeys, keys]
      exact List.mem_cons_self
    have changed : state.pendingGroupJoins.erase first ≠ state.pendingGroupJoins := by
      rw [Ne, Finset.erase_eq_self]
      exact fun absent => absent isFirst
    refine ⟨first, ?_, ?_⟩
    · simp [groupSyncTimeout, incomplete, keys, iterateTable, openPendingGroup, openGroup, changed]
    · simp [groupSyncTimeout, incomplete]

/-- The timer fires while two joins wait: one of them is dropped without having been opened. -/
theorem timeout_drops_join :
    ∃ state history lost,
      (joinMachine 1 englishLibrary {} {}).run
          (twoJoins ++ [.groupSyncTimeout Walk.inOrder]) = some (state, history) ∧
        .deferred lost ∈ history ∧ (∀ entry ∈ history, ¬entry.Ends lost) ∧
        .openedFreed lost ∉ history ∧ lost ∉ state.pendingGroupJoins := by
  have joined : ((joinMachine 1 englishLibrary {} {}).run twoJoins).any (fun reached =>
      reached.1.groupSyncFallbackTimer && !reached.1.groupSnapshotComplete &&
        decide (reached.1.pendingGroupJoins.Nonempty) &&
        decide (reached.2 = [.deferred "one", .deferred "two"])) = true := by
    decide +kernel
  obtain ⟨⟨waiting, before⟩, runs, facts⟩ := (Option.any_eq_true _ _).mp joined
  simp only [Bool.and_eq_true, Bool.not_eq_true', decide_eq_true_eq] at facts
  obtain ⟨⟨⟨armed, incomplete⟩, someWait⟩, rfl⟩ := facts
  obtain ⟨first, opened, noneLeft⟩ := groupSyncTimeout_of_joins Walk.inOrder incomplete someWait
  have stepped : (joinMachine 1 englishLibrary {} {}).step waiting
      (.groupSyncTimeout Walk.inOrder) =
        some ((waiting.groupSyncTimeout Walk.inOrder).1, [.openedFreed first]) := by
    rw [← opened]
    simp [joinMachine, stepJoins, armed]
  refine ⟨_, _, if first = "one" then "two" else "one",
    (Machine.runFrom_append_eq_some _).mpr
      ⟨waiting, _, _, runs, Machine.runFrom_singleton _ stepped, rfl⟩, ?_, ?_, ?_, ?_⟩
  · split <;> simp
  · simp [JoinEntry.Ends]
  · split
    next isOne => simp [isOne]
    next notOne => simpa [eq_comm] using notOne
  · simp [noneLeft]

end Reconciler

end SignalPurple
