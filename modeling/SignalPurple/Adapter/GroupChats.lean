import SignalPurple.Adapter.BuddyList
import SignalPurple.Adapter.Dispatch

/-! # Saved chats of groups

`group_sync.c`, and what `blist_sync.c` does with chats. A group may have several saved
chats; the adapter works with one of them and removes those of the others that are its own.
-/

namespace SignalPurple

structure Chat.Same (one other : Chat) : Prop where
  id : one.id = other.id
  account : one.account = other.account
  groupId : one.groupId = other.groupId
  groupKey : one.groupKey = other.groupKey

namespace Chat

def chatId (chat : Chat) : Option String := chat.groupId <|> chat.groupKey

/-- `purple_chat_get_name`: the alias, or else the first component of the chat. -/
def name (chat : Chat) : Option String :=
  if isBlank chat.title then chat.groupId else chat.title

def isOf (account : AccountId) (groupId : String) (chat : Chat) : Bool :=
  chat.account == account && chat.chatId == some groupId

theorem Same.trans {first second third : Chat} (one : first.Same second)
    (other : second.Same third) : first.Same third :=
  ⟨one.id.trans other.id, one.account.trans other.account, one.groupId.trans other.groupId,
    one.groupKey.trans other.groupKey⟩

end Chat

namespace BuddyList

/-- The loop of `signal_group_sync_lookup_chat`: the first chat of the group, or the first
one that the adapter does not manage. -/
def selectChat (account : AccountId) (groupId : String) : Option Chat → List Chat → Option Chat
  | selected, [] => selected
  | selected, candidate :: later =>
      if !candidate.isOf account groupId then selectChat account groupId selected later
      else if selected.all fun chosen => chosen.synced && !candidate.synced then
        selectChat account groupId (some candidate) later
      else selectChat account groupId selected later

def updateChat (list : BuddyList) (id : NodeId) (change : Chat → Chat)
    (same : ∀ chat, (change chat).Same chat) : BuddyList :=
  list.withChats (list.chats.update (fun chat => if chat.id = id then change chat else chat)
    (by intro chat; split <;> simp [(same chat).id]))

def setSyncedChat (list : BuddyList) (id : NodeId) : BuddyList :=
  list.updateChat id (fun chat => { chat with synced := true }) fun _ => ⟨rfl, rfl, rfl, rfl⟩

def removeManagedChats (list : BuddyList) (account : AccountId) (groupId : String) :
    BuddyList :=
  list.withChats (list.chats.filter fun chat => !(chat.synced && chat.isOf account groupId))

section Library

variable (purple : BuddyListLibrary) (walk : Walk)

def lookupChat (list : BuddyList) (account : AccountId) (groupId : String) : Option Chat :=
  selectChat account groupId none (walk.findChats list.chats.nodes)

def findChat (list : BuddyList) (account : AccountId) (groupId : String) :
    BuddyList × Option Chat :=
  let selected := list.lookupChat walk account groupId
  (list.withChats (list.chats.filter fun candidate =>
    !(selected.map Chat.id != some candidate.id && candidate.synced &&
      candidate.isOf account groupId)), selected)

/-- libpurple shows no unprintable characters and takes an empty alias for none. -/
def aliasOf (title : String) : Option String :=
  let shown := purple.stripUnprintables title
  if shown = "" then none else some shown

def addChat (list : BuddyList) (account : AccountId) (title groupId : String) : BuddyList :=
  list.withChats (list.chats.add
    (fun id => { id, account, group := purple.defaultChatGroup, groupId := some groupId
                 title := aliasOf purple title, synced := true })
    (fun _ => rfl))

def migrateChat (list : BuddyList) (chat : Chat) : BuddyList :=
  if !chat.synced || chat.group != legacyChatGroup then list
  else list.updateChat chat.id (fun chat => { chat with group := purple.defaultChatGroup })
    fun _ => ⟨rfl, rfl, rfl, rfl⟩

/-- A title that the user has not chosen follows the one of the group. -/
def followsSignalTitle (groupId title : String) (chat : Chat) : Bool :=
  isBlank chat.name || chat.name == some groupId ||
    (chat.syncedTitle.isSome && chat.name == chat.syncedTitle) ||
    (chat.syncedTitle.isNone && chat.name == some title)

/-- The caller has neither an empty group nor an empty title. -/
def refreshTitle (groupId title : String) (chat : Chat) : Chat :=
  { chat with
    title := if followsSignalTitle groupId title chat then aliasOf purple title else chat.title
    syncedTitle := some title }

def updateTitle (list : BuddyList) (id : NodeId) (groupId title : String) : BuddyList :=
  list.updateChat id (refreshTitle purple groupId title) fun _ => ⟨rfl, rfl, rfl, rfl⟩

end Library

/-! ## What a change leaves of the chats -/

def KeepsChat (list : BuddyList) (chat : Chat) : Prop :=
  ∃ kept ∈ list.chats.nodes, kept.Same chat

def HasOtherChat (list next : BuddyList) (account : AccountId) (groupId : String)
    (chat : Chat) : Prop :=
  ∃ other ∈ list.chats.nodes, other.id ≠ chat.id ∧ other.isOf account groupId = true ∧
    next.KeepsChat other

def ExtendsChats (list next : BuddyList) : Prop :=
  ∀ chat ∈ list.chats.nodes, next.KeepsChat chat

variable {list middle next : BuddyList} {chat : Chat} {account : AccountId} {groupId : String}
  {purple : BuddyListLibrary} {walk : Walk}

theorem ExtendsChats.keep (grows : list.ExtendsChats next) (kept : list.KeepsChat chat) :
    next.KeepsChat chat := by
  rcases kept with ⟨before, member, same⟩
  rcases grows before member with ⟨after, present, still⟩
  exact ⟨after, present, still.trans same⟩

theorem HasOtherChat.extend (other : list.HasOtherChat middle account groupId chat)
    (grows : middle.ExtendsChats next) : list.HasOtherChat next account groupId chat := by
  rcases other with ⟨twin, member, differs, isOf, kept⟩
  exact ⟨twin, member, differs, isOf, grows.keep kept⟩

theorem ExtendsChats.trans (one : list.ExtendsChats middle) (two : middle.ExtendsChats next) :
    list.ExtendsChats next := by
  intro chat member
  exact two.keep (one chat member)

theorem extendsChats_refl (list : BuddyList) : list.ExtendsChats list :=
  fun chat member => ⟨chat, member, rfl, rfl, rfl, rfl⟩

theorem extendsChats_updateChat (list : BuddyList) (id : NodeId) {change : Chat → Chat}
    (same : ∀ chat, (change chat).Same chat) :
    list.ExtendsChats (list.updateChat id change same) := by
  intro chat member
  refine ⟨_, List.mem_map.mpr ⟨chat, member, rfl⟩, ?_⟩
  split
  · exact same chat
  · exact ⟨rfl, rfl, rfl, rfl⟩

theorem extendsChats_setSyncedChat (list : BuddyList) (id : NodeId) :
    list.ExtendsChats (list.setSyncedChat id) :=
  extendsChats_updateChat list id _

theorem extendsChats_updateTitle (list : BuddyList) (id : NodeId) (groupId title : String) :
    list.ExtendsChats (list.updateTitle purple id groupId title) :=
  extendsChats_updateChat list id _

theorem extendsChats_addChat (list : BuddyList) (account : AccountId) (title groupId : String) :
    list.ExtendsChats (list.addChat purple account title groupId) :=
  fun chat member => ⟨chat, List.mem_append_left _ member, rfl, rfl, rfl, rfl⟩

theorem extendsChats_migrateChat (list : BuddyList) (chat : Chat) :
    list.ExtendsChats (list.migrateChat purple chat) := by
  unfold migrateChat
  split
  · exact extendsChats_refl list
  · exact extendsChats_updateChat list chat.id _

theorem mem_of_selectChat {selected : Option Chat} {candidates : List Chat}
    (found : selectChat account groupId selected candidates = some chat) :
    selected = some chat ∨ chat ∈ candidates ∧ chat.isOf account groupId = true := by
  fun_induction selectChat account groupId selected candidates with
  | case1 => exact Or.inl found
  | case2 | case3 | case4 => grind

theorem not_isOf_of_selectChat_none {selected : Option Chat} {candidates : List Chat}
    (found : selectChat account groupId selected candidates = none) :
    selected = none ∧ ∀ chat ∈ candidates, chat.isOf account groupId = false := by
  fun_induction selectChat account groupId selected candidates with
  | case1 => simp_all
  | case2 selected candidate later other induction =>
      have ⟨isNone, others⟩ := induction found
      exact ⟨isNone, List.forall_mem_cons.mpr ⟨by simpa using other, others⟩⟩
  | case3 selected candidate later same replaces induction =>
      cases (induction found).1
  | case4 selected candidate later same keeps induction =>
      rw [(induction found).1] at keeps
      exact absurd rfl keeps

theorem findChat_cases (member : chat ∈ list.chats.nodes) :
    chat ∈ (list.findChat walk account groupId).1.chats.nodes ∨
      chat.synced = true ∧ chat.isOf account groupId = true ∧
        list.HasOtherChat (list.findChat walk account groupId).1 account groupId chat := by
  have mem_walk : ∀ other, other ∈ walk.findChats list.chats.nodes ↔ other ∈ list.chats.nodes :=
    fun other => (walk.findChats_perm _).mem_iff
  unfold findChat
  cases found : list.lookupChat walk account groupId with
  | none =>
      have other := (not_isOf_of_selectChat_none found).2 chat ((mem_walk chat).mpr member)
      exact Or.inl (List.mem_filter.mpr ⟨member, by simp [other]⟩)
  | some selected =>
      rcases mem_of_selectChat found with isNone | ⟨inWalk, isOf⟩
      · cases isNone
      have present := (mem_walk selected).mp inWalk
      by_cases removed : selected.id ≠ chat.id ∧ chat.synced = true ∧
          chat.isOf account groupId = true
      · refine Or.inr ⟨removed.2.1, removed.2.2, selected, present, removed.1, isOf, selected, ?_,
          rfl, rfl, rfl, rfl⟩
        exact List.mem_filter.mpr ⟨present, by simp⟩
      · refine Or.inl (List.mem_filter.mpr ⟨member, ?_⟩)
        simpa [or_iff_not_imp_left] using removed

end BuddyList

end SignalPurple
