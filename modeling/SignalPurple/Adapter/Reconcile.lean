import SignalPurple.Adapter.GroupChats
import SignalPurple.Foundation.MarkSweep

/-! # Reconciliation of the buddy list with snapshots

The routines of `connection.c` for the snapshots that the core sends. A snapshot is opened,
lists contacts or groups, and is closed, which removes the entries of the account that the
adapter has added and that were not listed. A snapshot may be cut off, opened again or
closed without having been opened.
-/

namespace SignalPurple

/-- What the adapter knows of the snapshots, besides the state its dispatch works on. -/
structure Reconciler extends AdapterState where
  list : BuddyList
  contactSync : MarkSweep String := {}
  groupSync : MarkSweep String := {}
  pendingGroupJoins : Finset String := ∅
  groupTitles : String → Option String := fun _ => none

inductive SyncEvent where
  | contactSyncBegin
  | contact (peerId title text : Option String)
  | contactSyncEnd
  | groupSyncBegin
  | group (chatId title : Option String)
  | groupSyncEnd (value : Int)
  deriving DecidableEq

/-- `signal_contact_sync_mark`. -/
def markIdentifier (sync : MarkSweep String) (identifier : Option String) : MarkSweep String :=
  if isBlank identifier then sync else sync.mark (identifier.getD "")

/-- `signal_contact_sync_should_remove`. -/
def shouldRemove (sync : MarkSweep String) (identifier : Option String) : Bool :=
  !isBlank identifier && sync.isStale (identifier.getD "")

def groupTitle (titles : String → Option String) (groupKey : String) : String :=
  if isBlank (titles groupKey) then "Signal group" else (titles groupKey).getD "Signal group"

/-- `signal_group_sync_take_active_joins`: the joins to make now, and those that wait on. -/
def takeActiveJoins (pending active : Finset String) (clearUnmatched : Bool) :
    Finset String × Finset String :=
  (pending ∩ active, if clearUnmatched then ∅ else pending \ active)

/-- What becomes of the chats that are joined before the groups are known. -/
inductive JoinEntry where
  | deferred (groupKey : String)
  | opened (groupKey : String)
  /-- A conversation is opened under a key whose memory has been freed. -/
  | openedFreed (groupKey : String)
  | deactivated (groupKey : String)
  | authoritativeEnd (listed : Finset String)
  deriving DecidableEq

namespace Reconciler

def initial (adapter : AdapterState) (list : BuddyList) : Reconciler where
  toAdapterState := adapter
  list

variable (account : AccountId) (purple : BuddyListLibrary) (walk : Walk)

/-! ## Contacts -/

def beginContactSync (state : Reconciler) : Reconciler :=
  { state with contactSync := MarkSweep.start }

def addContact (state : Reconciler) (peerId title text : Option String) : Reconciler :=
  if isBlank peerId then state
  else
    let peer := peerId.getD ""
    let adopted := state.list.adoptLegacyBuddy purple walk account peer
    let (list, id, managed) :=
      match adopted.2 with
      | none =>
          let added := adopted.1.addBuddy purple account peer
          (added.1, added.2, true)
      | some buddy => (adopted.1, buddy.id, buddy.synced)
    let shown := if isBlank title then text else title
    { state with
      contactSync := markIdentifier state.contactSync peerId
      list := (if managed then list.setSynced id else list).serverAliasBuddy id
        (if isBlank shown then none else shown) }

def endContactSync (state : Reconciler) : Reconciler :=
  if !state.contactSync.active then state
  else
    { state with
      list := state.list.filterBuddies fun buddy =>
        !(buddy.account == account && buddy.synced &&
          shouldRemove state.contactSync (some buddy.name))
      contactSync := MarkSweep.finish }

/-! ## Groups -/

def beginGroupSync (state : Reconciler) : Reconciler :=
  { state with groupSnapshotComplete := false, groupSync := MarkSweep.start }

def addGroup (state : Reconciler) (chatId title : Option String) : Reconciler :=
  if isBlank chatId then state
  else
    let groupKey := chatId.getD ""
    let titles := if isBlank title then state.groupTitles
      else Function.update state.groupTitles groupKey title
    let found := state.list.findChat walk account groupKey
    let (list, id, managed) :=
      match found.2 with
      | none =>
          (found.1.addChat purple account (groupTitle titles groupKey) groupKey,
            found.1.chats.next, true)
      | some chat => (found.1.migrateChat purple chat, chat.id, chat.synced)
    { state with
      groupSync := markIdentifier state.groupSync chatId
      groupTitles := titles
      list :=
        if managed then
          (list.setSyncedChat id).updateTitle purple id groupKey (groupTitle titles groupKey)
        else list }

def deactivateGroup (removeSavedChat : Bool) (state : Reconciler) (groupKey : String) :
    Reconciler :=
  if groupKey = "" then state
  else
    { state with
      list := if removeSavedChat then state.list.removeManagedChats account groupKey
        else state.list
      activeGroupKeys := state.activeGroupKeys.erase groupKey
      pendingGroupJoins := state.pendingGroupJoins.erase groupKey
      pendingGroupLeaves := state.pendingGroupLeaves.erase groupKey
      groupTitles := Function.update state.groupTitles groupKey none }

def staleGroups (state : Reconciler) : Finset String :=
  state.activeGroupKeys.filter fun groupKey => shouldRemove state.groupSync (some groupKey)

/-- Only the snapshot from the network is authoritative; one from the local store makes its
groups usable and removes nothing. -/
def endGroupSync (state : Reconciler) (value : Int) : Reconciler × List JoinEntry :=
  if !state.groupSync.active then (state, [])
  else if value ≠ 0 then
    let stale := walk.listKeys state.staleGroups
    let pruned := stale.foldl (deactivateGroup account false) state
    let joins := takeActiveJoins pruned.pendingGroupJoins state.groupSync.seen true
    ({ pruned with
       groupSyncFallbackTimer := false
       activeGroupKeys := state.groupSync.seen
       list := pruned.list.withChats (pruned.list.chats.filter fun chat =>
         !(chat.account == account && chat.synced && shouldRemove state.groupSync chat.chatId))
       groupSync := MarkSweep.finish
       groupSnapshotComplete := true
       pendingGroupJoins := joins.2 },
      stale.map .deactivated ++ .authoritativeEnd state.groupSync.seen ::
        (walk.listKeys joins.1).map .opened)
  else
    let active := state.activeGroupKeys ∪ state.groupSync.seen
    let joins := takeActiveJoins state.pendingGroupJoins active false
    ({ state with
       activeGroupKeys := active
       groupSync := MarkSweep.finish
       pendingGroupJoins := joins.2 },
      (walk.listKeys joins.1).map .opened)

def reconcile (state : Reconciler) : SyncEvent → Reconciler
  | .contactSyncBegin => state.beginContactSync
  | .contact peerId title text => state.addContact account purple walk peerId title text
  | .contactSyncEnd => state.endContactSync account
  | .groupSyncBegin => state.beginGroupSync
  | .group chatId title => state.addGroup account purple walk chatId title
  | .groupSyncEnd value => (state.endGroupSync account walk value).1

/-- Each event finds libpurple walking its list in an order of that moment. -/
def reconcileAll (state : Reconciler) (events : List (Walk × SyncEvent)) : Reconciler :=
  events.foldl (fun state event => state.reconcile account purple event.1 event.2) state

/-! ## The snapshots in a sequence of events -/

end Reconciler

namespace SyncEvent

def contactOperation : SyncEvent → Option (MarkSweep.Operation String)
  | .contactSyncBegin => some .start
  | .contact peerId _ _ => if isBlank peerId then none else some (.mark (peerId.getD ""))
  | .contactSyncEnd => some .finish
  | .groupSyncBegin | .group _ _ | .groupSyncEnd _ => none

def groupOperation : SyncEvent → Option (MarkSweep.Operation String)
  | .groupSyncBegin => some .start
  | .group chatId _ => if isBlank chatId then none else some (.mark (chatId.getD ""))
  | .groupSyncEnd _ => some .finish
  | .contactSyncBegin | .contact _ _ _ | .contactSyncEnd => none

/-- The last snapshot of contacts is not closed, and has listed these peers. -/
def ContactsListed (events : List SyncEvent) (peers : List String) : Prop :=
  MarkSweep.Listed (events.filterMap contactOperation) peers

/-- The last snapshot of groups is not closed, and has listed these groups. -/
def GroupsListed (events : List SyncEvent) (groups : List String) : Prop :=
  MarkSweep.Listed (events.filterMap groupOperation) groups

end SyncEvent

namespace Reconciler

open SyncEvent

variable {account : AccountId} {purple : BuddyListLibrary} {walk : Walk} {state : Reconciler}

def sweep (sync : MarkSweep String) : Option (MarkSweep.Operation String) → MarkSweep String
  | none => sync
  | some operation => sync.apply operation

theorem foldl_deactivateGroup (groups : List String) (named : ∀ groupKey ∈ groups, groupKey ≠ "")
    (state : Reconciler) :
    groups.foldl (deactivateGroup account false) state =
      { state with
        activeGroupKeys := state.activeGroupKeys \ groups.toFinset
        pendingGroupJoins := state.pendingGroupJoins \ groups.toFinset
        pendingGroupLeaves := state.pendingGroupLeaves \ groups.toFinset
        groupTitles := fun key => if key ∈ groups then none else state.groupTitles key } := by
  induction groups generalizing state with
  | nil => simp
  | cons groupKey later induction =>
      have ⟨nonempty, laterNamed⟩ := List.forall_mem_cons.mp named
      have erased : ∀ keys : Finset String,
          keys.erase groupKey \ later.toFinset = keys \ (groupKey :: later).toFinset := by
        intro keys
        ext key
        simp only [Finset.mem_sdiff, Finset.mem_erase, List.mem_toFinset, List.mem_cons]
        tauto
      rw [List.foldl_cons, induction laterNamed]
      simp only [deactivateGroup, if_neg nonempty, erased]
      congr 1
      funext key
      by_cases isKey : key = groupKey
      · simp [isKey]
      · simp [isKey]

theorem named_staleGroups : ∀ groupKey ∈ walk.listKeys state.staleGroups, groupKey ≠ "" := by
  rintro groupKey member rfl
  rw [walk.mem_listKeys, staleGroups, Finset.mem_filter] at member
  exact absurd member.2 (by simp [shouldRemove, isBlank])

theorem contactSync_reconcile (event : SyncEvent)
    (closed : state.contactSync.active = false → state.contactSync = MarkSweep.finish) :
    (state.reconcile account purple walk event).contactSync =
      sweep state.contactSync event.contactOperation := by
  cases event with
  | contactSyncBegin | groupSyncBegin => rfl
  | contact peerId title text =>
      simp only [reconcile, addContact, contactOperation, markIdentifier]
      split <;> rfl
  | contactSyncEnd =>
      simp only [reconcile, endContactSync, contactOperation]
      split
      next inactive => exact closed (by simpa using inactive)
      next => rfl
  | group chatId title =>
      simp only [reconcile, addGroup, contactOperation]
      split <;> rfl
  | groupSyncEnd value =>
      simp only [reconcile, endGroupSync, foldl_deactivateGroup _ named_staleGroups,
        contactOperation]
      split
      · rfl
      · split <;> rfl

theorem groupSync_reconcile (event : SyncEvent)
    (closed : state.groupSync.active = false → state.groupSync = MarkSweep.finish) :
    (state.reconcile account purple walk event).groupSync =
      sweep state.groupSync event.groupOperation := by
  cases event with
  | contactSyncBegin | groupSyncBegin => rfl
  | contact peerId title text =>
      simp only [reconcile, addContact, groupOperation]
      split <;> rfl
  | contactSyncEnd =>
      simp only [reconcile, endContactSync, groupOperation]
      split <;> rfl
  | group chatId title =>
      simp only [reconcile, addGroup, groupOperation, markIdentifier]
      split <;> rfl
  | groupSyncEnd value =>
      simp only [reconcile, endGroupSync, groupOperation]
      split
      next inactive => exact closed (by simpa using inactive)
      next => split <;> rfl

theorem reconcileAll_concat (events : List (Walk × SyncEvent)) (walk : Walk) (event : SyncEvent) :
    state.reconcileAll account purple (events ++ [(walk, event)]) =
      (state.reconcileAll account purple events).reconcile account purple walk event := by
  simp [reconcileAll]

theorem sweep_of_reconcileAll (sync : Reconciler → MarkSweep String)
    (operation : SyncEvent → Option (MarkSweep.Operation String)) (starts : sync state = {})
    (steps : ∀ (state : Reconciler) (walk : Walk) (event : SyncEvent),
      ((sync state).active = false → sync state = MarkSweep.finish) →
        sync (state.reconcile account purple walk event) = sweep (sync state) (operation event))
    (events : List (Walk × SyncEvent)) :
    sync (state.reconcileAll account purple events) =
      MarkSweep.applyAll ((events.map Prod.snd).filterMap operation) := by
  induction events using List.reverseRecOn with
  | nil => exact starts
  | append_singleton earlier event induction =>
      rw [reconcileAll_concat, steps, induction]
      · simp only [List.map_append, List.filterMap_append, List.map_cons, List.map_nil]
        cases isOperation : operation event.2 with
        | none => simp [sweep, isOperation]
        | some found => simp [sweep, isOperation, MarkSweep.applyAll_concat]
      · rw [induction]
        exact MarkSweep.eq_finish_of_inactive _

/-! ## What an event removes -/

theorem list_addContact {peerId : Option String} (named : isBlank peerId = false)
    (title text : Option String) :
    (state.list.adoptLegacyBuddy purple walk account (peerId.getD "")).1.Extends
      (state.addContact account purple walk peerId title text).list := by
  simp only [addContact, named, Bool.false_eq_true, if_false]
  generalize state.list.adoptLegacyBuddy purple walk account (peerId.getD "") = adopted
  have marks : ∀ (list : BuddyList) (id : NodeId) (managed : Bool) (serverAlias : Option String),
      list.Extends
        ((if managed then list.setSynced id else list).serverAliasBuddy id serverAlias) := by
    intro list id managed serverAlias
    cases managed with
    | false => exact BuddyList.extends_serverAliasBuddy list id serverAlias
    | true =>
        exact (BuddyList.extends_setSynced list id).trans
          (BuddyList.extends_serverAliasBuddy _ id serverAlias)
  rcases adopted with ⟨list, found⟩
  cases found with
  | none => exact (BuddyList.extends_addBuddy list account _).trans (marks _ _ _ _)
  | some buddy => exact marks _ _ _ _

theorem chats_addContact (peerId title text : Option String) :
    (state.addContact account purple walk peerId title text).list.chats = state.list.chats := by
  have untouched : (state.list.adoptLegacyBuddy purple walk account (peerId.getD "")).1.chats =
      state.list.chats := BuddyList.chats_adoptLegacyBuddy _ _ _
  simp only [addContact]
  split
  · rfl
  · rw [← untouched]
    generalize state.list.adoptLegacyBuddy purple walk account (peerId.getD "") = adopted
    rcases adopted with ⟨list, _ | buddy⟩
    · exact purple.chats_addBuddy list account (peerId.getD "")
    · dsimp only
      split <;> rfl

theorem list_addGroup {chatId : Option String} (named : isBlank chatId = false)
    (title : Option String) :
    (state.list.findChat walk account (chatId.getD "")).1.ExtendsChats
      (state.addGroup account purple walk chatId title).list := by
  simp only [addGroup, named, Bool.false_eq_true, if_false]
  generalize groupTitle _ _ = shownTitle
  generalize state.list.findChat walk account (chatId.getD "") = found
  have marks : ∀ (list : BuddyList) (id : NodeId) (managed : Bool),
      list.ExtendsChats
        (if managed then
          (list.setSyncedChat id).updateTitle purple id (chatId.getD "") shownTitle
        else list) := by
    intro list id managed
    cases managed with
    | false => exact BuddyList.extendsChats_refl list
    | true =>
        exact (BuddyList.extendsChats_setSyncedChat list id).trans
          (BuddyList.extendsChats_updateTitle _ id _ _)
  rcases found with ⟨list, selected⟩
  cases selected with
  | none => exact (BuddyList.extendsChats_addChat list account _ _).trans (marks _ _ _)
  | some chat => exact (BuddyList.extendsChats_migrateChat list chat).trans (marks _ _ _)

theorem buddies_addGroup (chatId title : Option String) :
    (state.addGroup account purple walk chatId title).list.buddies = state.list.buddies := by
  have untouched : (state.list.findChat walk account (chatId.getD "")).1.buddies =
      state.list.buddies := rfl
  simp only [addGroup]
  split
  · rfl
  · rw [← untouched]
    generalize state.list.findChat walk account (chatId.getD "") = found
    rcases found with ⟨list, _ | chat⟩
    · rfl
    · have placed : (list.migrateChat purple chat).buddies = list.buddies := by
        unfold BuddyList.migrateChat
        split <;> rfl
      rw [← placed]
      dsimp only
      split <;> rfl

def isUnlisted (listed : List String) (identifier : Option String) : Bool :=
  !isBlank identifier && decide (identifier.getD "" ∉ listed)

theorem shouldRemove_of_listed {sync : MarkSweep String}
    {operations : List (MarkSweep.Operation String)} {listed : List String}
    (follows : sync = MarkSweep.applyAll operations)
    (isListed : MarkSweep.Listed operations listed) (identifier : Option String) :
    shouldRemove sync identifier = isUnlisted listed identifier := by
  rw [shouldRemove, follows, MarkSweep.isStale_of_listed isListed]
  rfl

/-- What one event does to the entries of the buddy list and to the active groups, after the
events before it. -/
structure ReconcileLaw (account : AccountId) (purple : BuddyListLibrary)
    (earlier : List SyncEvent) (event : SyncEvent) (before after : Reconciler) : Prop where
  /-- Buddies go at the end of a snapshot, and with a contact that leaves the legacy group
  for one where their like is. -/
  buddies : ∀ buddy ∈ before.list.buddies.nodes,
    after.list.Keeps buddy ∨ event = .contactSyncEnd ∨
      ∃ peer title text, event = .contact (some peer) title text ∧ peer ≠ "" ∧
        BuddyList.Merged purple before.list after.list account peer buddy
  /-- Chats go at the authoritative end of a snapshot, and as duplicates of one that stays. -/
  chats : ∀ chat ∈ before.list.chats.nodes,
    after.list.KeepsChat chat ∨ (∃ value, value ≠ 0 ∧ event = .groupSyncEnd value) ∨
      ∃ groupId title, event = .group (some groupId) title ∧ chat.synced = true ∧
        chat.isOf account groupId = true ∧
        before.list.HasOtherChat after.list account groupId chat
  contactEnd : event = .contactSyncEnd → ∀ listed, ContactsListed earlier listed →
    after.list.buddies.nodes = before.list.buddies.nodes.filter fun buddy =>
      !(buddy.account == account && buddy.synced && isUnlisted listed (some buddy.name))
  groupEnd : ∀ value, value ≠ 0 → event = .groupSyncEnd value →
    ∀ listed, GroupsListed earlier listed →
      (after.list.chats.nodes = before.list.chats.nodes.filter fun chat =>
        !(chat.account == account && chat.synced && isUnlisted listed chat.chatId)) ∧
      after.activeGroupKeys = listed.toFinset
  idleContactEnd : event = .contactSyncEnd → (¬∃ listed, ContactsListed earlier listed) →
    after = before
  idleGroupEnd : ∀ value, event = .groupSyncEnd value →
    (¬∃ listed, GroupsListed earlier listed) → after = before

theorem buddies_of_reconcile {event : SyncEvent} {buddy : Buddy}
    (member : buddy ∈ state.list.buddies.nodes) :
    (state.reconcile account purple walk event).list.Keeps buddy ∨ event = .contactSyncEnd ∨
      ∃ peer title text, event = .contact (some peer) title text ∧ peer ≠ "" ∧
        BuddyList.Merged purple state.list (state.reconcile account purple walk event).list
          account peer buddy := by
  have kept : state.list.Keeps buddy := (BuddyList.extends_refl state.list).keeps buddy member
  cases event with
  | contactSyncBegin | groupSyncBegin => exact Or.inl kept
  | contactSyncEnd => exact Or.inr (Or.inl rfl)
  | contact peerId title text =>
      cases named : isBlank peerId with
      | true =>
          simp only [reconcile, addContact, named, if_true]
          exact Or.inl kept
      | false =>
          have grows : (state.list.adoptLegacyBuddy purple walk account (peerId.getD "")).1.Extends
              (state.addContact account purple walk peerId title text).list :=
            list_addContact named title text
          rcases BuddyList.adoptLegacyBuddy_cases account (peerId.getD "") member with
            stays | merged
          · exact Or.inl (grows.keep stays)
          · rcases peerId with _ | peer
            · cases named
            · exact Or.inr (Or.inr ⟨peer, title, text, rfl, by simpa [isBlank] using named,
                merged.extend grows⟩)
  | group chatId title =>
      left
      unfold BuddyList.Keeps
      rw [reconcile, buddies_addGroup]
      exact kept
  | groupSyncEnd value =>
      left
      simp only [reconcile, endGroupSync, foldl_deactivateGroup _ named_staleGroups]
      split
      · exact kept
      · split <;> exact kept

theorem chats_of_reconcile {event : SyncEvent} {chat : Chat}
    (member : chat ∈ state.list.chats.nodes) :
    (state.reconcile account purple walk event).list.KeepsChat chat ∨
      (∃ value, value ≠ 0 ∧ event = .groupSyncEnd value) ∨
      ∃ groupId title, event = .group (some groupId) title ∧ chat.synced = true ∧
        chat.isOf account groupId = true ∧
        state.list.HasOtherChat (state.reconcile account purple walk event).list account groupId
          chat := by
  have kept : state.list.KeepsChat chat := BuddyList.extendsChats_refl state.list chat member
  cases event with
  | contactSyncBegin | groupSyncBegin => exact Or.inl kept
  | contact peerId title text =>
      left
      unfold BuddyList.KeepsChat
      rw [reconcile, chats_addContact]
      exact kept
  | contactSyncEnd =>
      left
      simp only [reconcile, endContactSync]
      split <;> exact kept
  | group chatId title =>
      cases named : isBlank chatId with
      | true =>
          simp only [reconcile, addGroup, named, if_true]
          exact Or.inl kept
      | false =>
          have grows : (state.list.findChat walk account (chatId.getD "")).1.ExtendsChats
              (state.addGroup account purple walk chatId title).list := list_addGroup named title
          rcases BuddyList.findChat_cases member with stays | ⟨synced, isOf, other⟩
          · exact Or.inl (grows chat stays)
          · rcases chatId with _ | groupId
            · cases named
            · exact Or.inr (Or.inr ⟨groupId, title, rfl, synced, isOf, other.extend grows⟩)
  | groupSyncEnd value =>
      by_cases authoritative : value = 0
      · left
        simp only [reconcile, endGroupSync, authoritative, ne_eq, not_true_eq_false, if_false]
        split <;> exact kept
      · exact Or.inr (Or.inl ⟨value, authoritative, rfl⟩)

/-- Every event of every sequence, whatever the buddy list was at its start. -/
theorem reconcileLaw_of_reconcileAll (account : AccountId) (purple : BuddyListLibrary)
    (adapter : AdapterState) (list : BuddyList) (events : List (Walk × SyncEvent)) (walk : Walk)
    (event : SyncEvent) :
    ReconcileLaw account purple (events.map Prod.snd) event
      ((initial adapter list).reconcileAll account purple events)
      (((initial adapter list).reconcileAll account purple events).reconcile account purple walk
        event) := by
  generalize reached : (initial adapter list).reconcileAll account purple events = state
  have contacts : state.contactSync =
      MarkSweep.applyAll ((events.map Prod.snd).filterMap contactOperation) := by
    rw [← reached]
    exact sweep_of_reconcileAll Reconciler.contactSync contactOperation rfl
      (fun _ _ event closed => contactSync_reconcile event closed) events
  have groups : state.groupSync =
      MarkSweep.applyAll ((events.map Prod.snd).filterMap groupOperation) := by
    rw [← reached]
    exact sweep_of_reconcileAll Reconciler.groupSync groupOperation rfl
      (fun _ _ event closed => groupSync_reconcile event closed) events
  constructor
  · exact fun buddy member => buddies_of_reconcile member
  · exact fun chat member => chats_of_reconcile member
  · rintro rfl listed isListed
    have isActive : state.contactSync.active = true := by
      rw [contacts, MarkSweep.active_iff_listed]
      exact ⟨listed, isListed⟩
    simp only [reconcile, endContactSync, isActive, shouldRemove_of_listed contacts isListed]
    rfl
  · rintro value authoritative rfl listed isListed
    have isActive : state.groupSync.active = true := by
      rw [groups, MarkSweep.active_iff_listed]
      exact ⟨listed, isListed⟩
    have seen : state.groupSync.seen = listed.toFinset := by
      rw [groups]
      exact MarkSweep.seen_of_listed isListed
    simp only [reconcile, endGroupSync, isActive, authoritative, ne_eq, not_false_eq_true,
      Bool.not_true, Bool.false_eq_true, if_true, if_false, seen,
      foldl_deactivateGroup _ named_staleGroups, shouldRemove_of_listed groups isListed]
    exact ⟨rfl, trivial⟩
  · rintro rfl idle
    have isInactive : state.contactSync.active = false := by
      rw [← Bool.not_eq_true, contacts, MarkSweep.active_iff_listed]
      exact idle
    simp [reconcile, endContactSync, isInactive]
  · rintro value rfl idle
    have isInactive : state.groupSync.active = false := by
      rw [← Bool.not_eq_true, groups, MarkSweep.active_iff_listed]
      exact idle
    simp [reconcile, endGroupSync, isInactive]

/-! A person whom an older build has put into its own group, and whom the user has added
again. -/

def addedTwice : Nodes Buddy Buddy.id :=
  (({} : Nodes Buddy Buddy.id).add
    (fun id => { id, account := 1, name := "p", contact := 0 }) fun _ => rfl).add
    (fun id => { id, account := 1, name := "p", contact := 1 }) fun _ => rfl

def listAddedTwice : BuddyList where
  buddies := addedTwice
  contactGroup := fun contact => if contact = 0 then legacyBuddyGroup else "Buddies"
  nextContact := 2
  known := by decide

def englishLibrary : BuddyListLibrary :=
  BuddyListNames.merging
    { normalize := fun _ name => name
      stripUnprintables := id
      defaultBuddyGroup := "Buddies"
      defaultChatGroup := "Chats" }

/-- Listing that person removes a buddy without a marker, before any snapshot has ended. -/
theorem unmarked_buddy_removed_by_contact :
    ∃ buddy ∈ listAddedTwice.buddies.nodes, buddy.synced = false ∧
      ¬((initial {} listAddedTwice).reconcile 1 englishLibrary Walk.inOrder
        (.contact (some "p") none none)).list.Keeps buddy := by
  refine ⟨{ id := 0, account := 1, name := "p", contact := 0 }, by decide, rfl, ?_⟩
  rintro ⟨kept, member, same⟩
  have ids : ((initial {} listAddedTwice).reconcile 1 englishLibrary Walk.inOrder
      (.contact (some "p") none none)).list.buddies.nodes.map Buddy.id = [1] := by
    decide +kernel
  have isOne := List.mem_map_of_mem (f := Buddy.id) member
  rw [ids, same.id] at isOne
  exact absurd isOne (by decide)

end Reconciler

end SignalPurple
