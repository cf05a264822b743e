import Mathlib.Data.List.Chain
import SignalPurple.Adapter.Reconcile

/-! # Titles of groups and aliases of the user

A saved chat has one name, which either the user or the title of the group on Signal has given
to it. Nothing tells the two apart but a comparison with the title that was synchronized last.
-/

namespace SignalPurple

inductive TitleMove where
  /-- `signal_group_sync_update_title`. -/
  | refresh (title : String)
  /-- The user gives the chat an alias. -/
  | rename (text : String)

variable (purple : BuddyListLibrary)

namespace Chat

/-- `purple_blist_alias_chat`. -/
def setAlias (text : String) (chat : Chat) : Chat :=
  { chat with title := BuddyList.aliasOf purple text }

def moveTitle (groupId : String) (chat : Chat) : TitleMove → Chat
  | .refresh title => BuddyList.refreshTitle purple groupId title chat
  | .rename text => chat.setAlias purple text

def moveTitles (groupId : String) (chat : Chat) (moves : List TitleMove) : Chat :=
  moves.foldl (moveTitle purple groupId) chat

end Chat

namespace BuddyList

def aliasChat (list : BuddyList) (id : NodeId) (text : String) : BuddyList :=
  list.updateChat id (Chat.setAlias purple text) fun _ => ⟨rfl, rfl, rfl, rfl⟩

def moveTitle (id : NodeId) (groupId : String) (list : BuddyList) : TitleMove → BuddyList
  | .refresh title => list.updateTitle purple id groupId title
  | .rename text => list.aliasChat purple id text

def moveTitles (id : NodeId) (groupId : String) (list : BuddyList) (moves : List TitleMove) :
    BuddyList :=
  moves.foldl (moveTitle purple id groupId) list

def chat? (list : BuddyList) (id : NodeId) : Option Chat := list.chats.nodes.find? (·.id == id)

def nameOf (list : BuddyList) (id : NodeId) : Option String := (list.chat? id).bind Chat.name

end BuddyList

variable {purple} {list : BuddyList} {id : NodeId} {groupId : String} {chat : Chat}

/-! ## One chat of the list -/

theorem BuddyList.chat?_updateChat (change : Chat → Chat)
    (same : ∀ chat, (change chat).Same chat) :
    (list.updateChat id change same).chat? id = (list.chat? id).map change := by
  unfold chat? updateChat
  change List.find? _ (list.chats.nodes.map _) = _
  have unmoved : ((fun chat : Chat => chat.id == id) ∘ fun chat =>
      if chat.id = id then change chat else chat) = (·.id == id) := by
    funext chat
    simp only [Function.comp_apply]
    split
    · rw [(same chat).id]
    · rfl
  rw [List.find?_map, unmoved]
  cases found : list.chats.nodes.find? (·.id == id) with
  | none => rfl
  | some chat =>
      have isIt : chat.id = id := by simpa using List.find?_some found
      simp [isIt]

theorem BuddyList.chat?_moveTitles (moves : List TitleMove) :
    (list.moveTitles purple id groupId moves).chat? id =
      (list.chat? id).map (·.moveTitles purple groupId moves) := by
  induction moves generalizing list with
  | nil => simp [moveTitles, Chat.moveTitles]
  | cons move later induction =>
      have first : (moveTitle purple id groupId list move).chat? id =
          (list.chat? id).map (·.moveTitle purple groupId move) := by
        cases move with
        | refresh title =>
            exact chat?_updateChat (refreshTitle purple groupId title)
              fun _ => ⟨rfl, rfl, rfl, rfl⟩
        | rename text =>
            exact chat?_updateChat (Chat.setAlias purple text) fun _ => ⟨rfl, rfl, rfl, rfl⟩
      have rest : (moveTitles purple id groupId (moveTitle purple id groupId list move)
          later).chat? id = _ := induction
      rw [first, Option.map_map] at rest
      exact rest

/-! ## A name of the user's own -/

namespace Chat

structure ShownAs (groupId shown : String) (chat : Chat) : Prop where
  title : chat.title = some shown
  ofGroup : chat.chatId = some groupId
  nonempty : shown ≠ ""
  notGroup : shown ≠ groupId

variable {shown title : String}

theorem ShownAs.name (named : chat.ShownAs groupId shown) : chat.name = some shown := by
  simp [Chat.name, named.title, isBlank, named.nonempty]

theorem ShownAs.refresh (named : chat.ShownAs groupId shown)
    (printable : purple.stripUnprintables shown = shown) (apart : chat.syncedTitle ≠ some shown) :
    (BuddyList.refreshTitle purple groupId title chat).ShownAs groupId shown := by
  refine ⟨?_, named.ofGroup, named.nonempty, named.notGroup⟩
  simp only [BuddyList.refreshTitle]
  split
  next follows =>
    have same : shown = title := by
      cases synced : chat.syncedTitle with
      | none =>
          simpa [BuddyList.followsSignalTitle, named.name, isBlank, named.nonempty,
            named.notGroup, synced] using follows
      | some last =>
          have other : shown ≠ last := fun same => apart (same ▸ synced)
          simp [BuddyList.followsSignalTitle, named.name, isBlank, named.nonempty,
            named.notGroup, synced, other] at follows
    simp [← same, BuddyList.aliasOf, printable, named.nonempty]
  next => exact named.title

theorem title_refresh_of_synced (named : chat.ShownAs groupId shown)
    (synced : chat.syncedTitle = some shown) :
    (BuddyList.refreshTitle purple groupId title chat).title = BuddyList.aliasOf purple title := by
  have follows : BuddyList.followsSignalTitle groupId title chat = true := by
    simp [BuddyList.followsSignalTitle, named.name, synced]
  simp [BuddyList.refreshTitle, follows]

theorem name_ne_of_blank (ofGroup : chat.chatId = some groupId) (notGroup : shown ≠ groupId)
    (blank : chat.title = none) : chat.name ≠ some shown := by
  intro named
  have isId : chat.groupId = some shown := by simpa [Chat.name, blank, isBlank] using named
  have same : shown = groupId := by simpa [Chat.chatId, isId] using ofGroup
  exact notGroup same

theorem name_setTitle (ofGroup : chat.chatId = some groupId) (nonempty : shown ≠ "")
    (notGroup : shown ≠ groupId) (titled : chat.title = BuddyList.aliasOf purple title) :
    chat.name = some shown ↔ purple.stripUnprintables title = shown := by
  by_cases empty : purple.stripUnprintables title = ""
  · have blank : chat.title = none := by simp [titled, BuddyList.aliasOf, empty]
    have unshown := name_ne_of_blank ofGroup notGroup blank
    simp [unshown, empty, Ne.symm nonempty]
  · simp [Chat.name, titled, BuddyList.aliasOf, empty, isBlank]

/-- A title that is the name on show must be followed by one that looks the same. -/
def TakesOver (purple : BuddyListLibrary) (shown title next : String) : Prop :=
  title = shown → purple.stripUnprintables next = shown

/-- The name is kept through all of the refreshes. -/
def KeepsName (purple : BuddyListLibrary) (groupId shown : String) (titles : List String)
    (chat : Chat) : Prop :=
  ∀ later, later <+: titles →
    (chat.moveTitles purple groupId (later.map .refresh)).name = some shown

theorem keepsName_cons (named : chat.ShownAs groupId shown) (titles : List String) :
    chat.KeepsName purple groupId shown (title :: titles) ↔
      (BuddyList.refreshTitle purple groupId title chat).KeepsName purple groupId shown titles := by
  constructor
  · intro kept later isPrefix
    exact kept (title :: later) ((List.prefix_cons_inj title).mpr isPrefix)
  · intro kept later isPrefix
    rcases List.prefix_cons_iff.mp isPrefix with rfl | ⟨rest, rfl, isRest⟩
    · exact named.name
    · exact kept rest isRest

theorem isChain_of_apart {last : Option String} (apart : last ≠ some shown)
    (titles : List String) :
    (last.toList ++ titles).IsChain (TakesOver purple shown) ↔
      titles.IsChain (TakesOver purple shown) := by
  cases last with
  | none => simp
  | some title =>
      have other : title ≠ shown := fun same => apart (same ▸ rfl)
      cases titles with
      | nil => simp
      | cons next titles => simp [List.isChain_cons_cons, TakesOver, other]

theorem keepsName_iff (named : chat.ShownAs groupId shown)
    (printable : purple.stripUnprintables shown = shown) (titles : List String) :
    chat.KeepsName purple groupId shown titles ↔
      (chat.syncedTitle.toList ++ titles).IsChain (TakesOver purple shown) := by
  induction titles generalizing chat with
  | nil =>
      have alone : (chat.syncedTitle.toList ++ []).IsChain (TakesOver purple shown) := by
        cases chat.syncedTitle <;> simp
      simpa [KeepsName, moveTitles, named.name] using alone
  | cons title titles induction =>
      rw [keepsName_cons named]
      by_cases synced : chat.syncedTitle = some shown
      · have titled : (BuddyList.refreshTitle purple groupId title chat).title =
            BuddyList.aliasOf purple title := title_refresh_of_synced named synced
        have chain : (chat.syncedTitle.toList ++ title :: titles).IsChain
            (TakesOver purple shown) ↔ purple.stripUnprintables title = shown ∧
              (title :: titles).IsChain (TakesOver purple shown) := by
          simp [synced, List.isChain_cons_cons, TakesOver]
        rw [chain]
        by_cases looksSame : purple.stripUnprintables title = shown
        · have next : (BuddyList.refreshTitle purple groupId title chat).ShownAs groupId shown :=
            ⟨by simp [titled, BuddyList.aliasOf, looksSame, named.nonempty], named.ofGroup,
              named.nonempty, named.notGroup⟩
          rw [induction next]
          simp [BuddyList.refreshTitle, looksSame]
        · refine iff_of_false ?_ fun both => looksSame both.1
          intro kept
          have ofGroup : (BuddyList.refreshTitle purple groupId title chat).chatId = some groupId :=
            named.ofGroup
          exact looksSame ((name_setTitle ofGroup named.nonempty named.notGroup titled).mp
            (kept [] List.nil_prefix))
      · have next : (BuddyList.refreshTitle purple groupId title chat).ShownAs groupId shown :=
          named.refresh printable synced
        rw [induction next, isChain_of_apart synced]
        rfl

theorem chatId_moveTitles (moves : List TitleMove) :
    (chat.moveTitles purple groupId moves).chatId = chat.chatId := by
  induction moves generalizing chat with
  | nil => rfl
  | cons move later induction =>
      have rest : ((chat.moveTitle purple groupId move).moveTitles purple groupId
          later).chatId = (chat.moveTitle purple groupId move).chatId := induction
      refine rest.trans ?_
      cases move <;> rfl

theorem shownAs_setAlias {text : String} (ofGroup : chat.chatId = some groupId)
    (nonempty : purple.stripUnprintables text ≠ "")
    (notGroup : purple.stripUnprintables text ≠ groupId) :
    (chat.setAlias purple text).ShownAs groupId (purple.stripUnprintables text) where
  title := by simp [setAlias, BuddyList.aliasOf, nonempty]
  ofGroup := ofGroup
  nonempty := nonempty
  notGroup := notGroup

end Chat

/-- An alias of the user's is kept through every later refresh, unless one of them brings that
very alias as the title of the group and the next brings another. -/
theorem BuddyList.alias_kept_iff (found : list.chat? id = some chat)
    (ofGroup : chat.chatId = some groupId)
    (idempotent : ∀ text, purple.stripUnprintables (purple.stripUnprintables text) =
      purple.stripUnprintables text)
    (before : List TitleMove) (text : String) (titles : List String)
    (nonempty : purple.stripUnprintables text ≠ "")
    (notGroup : purple.stripUnprintables text ≠ groupId)
    (notSynced : ((list.moveTitles purple id groupId before).chat? id).bind (·.syncedTitle) ≠
      some (purple.stripUnprintables text)) :
    (∀ later, later <+: titles →
        (list.moveTitles purple id groupId
            (before ++ .rename text :: later.map .refresh)).nameOf id =
          some (purple.stripUnprintables text)) ↔
      titles.IsChain (Chat.TakesOver purple (purple.stripUnprintables text)) := by
  let earlier := chat.moveTitles purple groupId before
  have ofGroupStill : earlier.chatId = some groupId := by
    rw [Chat.chatId_moveTitles, ofGroup]
  have named := Chat.shownAs_setAlias ofGroupStill nonempty notGroup
  have synced : earlier.syncedTitle ≠ some (purple.stripUnprintables text) := by
    simpa [chat?_moveTitles, found] using notSynced
  have nameOf : ∀ later : List String, (list.moveTitles purple id groupId
      (before ++ .rename text :: later.map .refresh)).nameOf id =
        ((earlier.setAlias purple text).moveTitles purple groupId
          (later.map .refresh)).name := by
    intro later
    rw [BuddyList.nameOf, chat?_moveTitles, found]
    simp [Chat.moveTitles, Chat.moveTitle, earlier]
  simp only [nameOf]
  exact (Chat.keepsName_iff named (idempotent text) titles).trans
    (Chat.isChain_of_apart synced titles)

def savedTeam : BuddyList where
  chats :=
    { nodes := [{ id := 0, account := 1, group := "Chats", groupId := some "group"
                  title := some "Team", synced := true, syncedTitle := some "Team" }]
      next := 1
      distinct := by simp
      fresh := by simp }

theorem alias_kept_through_titles :
    ["Team 2", "Team 3", "Climbers"].IsChain
        (Chat.TakesOver Reconciler.englishLibrary "Climbers") ∧
      ∀ later, later <+: ["Team 2", "Team 3", "Climbers"] →
        (savedTeam.moveTitles Reconciler.englishLibrary 0 "group"
          ([.refresh "Team"] ++ .rename "Climbers" :: later.map .refresh)).nameOf 0 =
            some "Climbers" := by
  have chain : ["Team 2", "Team 3", "Climbers"].IsChain
      (Chat.TakesOver Reconciler.englishLibrary "Climbers") := by
    simp [Chat.TakesOver]
  exact ⟨chain, (@BuddyList.alias_kept_iff Reconciler.englishLibrary savedTeam 0 "group" _
    rfl rfl (fun _ => rfl) [.refresh "Team"] "Climbers" _ (by decide) (by decide)
    (by decide)).mpr chain⟩

/-- The group takes the name that the user has given to it, and then another: the alias is
lost, though it was neither empty nor the group's identifier nor the title known by then. -/
theorem alias_overwritten :
    (savedTeam.moveTitles Reconciler.englishLibrary 0 "group"
        [.refresh "Team", .rename "Climbers"]).nameOf 0 = some "Climbers" ∧
      ((savedTeam.moveTitles Reconciler.englishLibrary 0 "group"
        [.refresh "Team"]).chat? 0).bind (·.syncedTitle) = some "Team" ∧
      (savedTeam.moveTitles Reconciler.englishLibrary 0 "group"
        [.refresh "Team", .rename "Climbers", .refresh "Climbers",
          .refresh "Team 2"]).nameOf 0 = some "Team 2" := by
  decide

end SignalPurple
