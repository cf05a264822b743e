import SignalPurple.Adapter.BlistTree
import SignalPurple.Adapter.GroupChats

/-! # Finding the chat of a group

`signal_group_sync_find_chat` goes through the nodes of the list twice: it selects the chat of
a group, and then removes the other chats of the group that the adapter had made.
-/

namespace SignalPurple

namespace BlistTree

/-- The body of `signal_group_sync_lookup_chat`. -/
def consider (account : AccountId) (groupId : String) (tree : BlistTree)
    (selected : Option Chat) (id : NodeId) : Option Chat :=
  match tree.chat? id with
  | none => selected
  | some candidate =>
      if !candidate.isOf account groupId then selected
      else if selected.all fun chosen => chosen.synced && !candidate.synced then some candidate
      else selected

def lookupChat (tree : BlistTree) (account : AccountId) (groupId : String) :
    Option (Option Chat) :=
  if groupId = "" then some none
  else
    Traversal.walk (fun _ => tree.nodes) (consider account groupId tree) tree.nodes.length none
      tree.nodes.head?

def isDuplicate (account : AccountId) (groupId : String) (selected : Option Chat)
    (candidate : Chat) : Bool :=
  selected.map Chat.id != some candidate.id && candidate.synced && candidate.isOf account groupId

/-- `signal_group_sync_find_chat`; there is no result if a loop does not end. -/
def findChat (tree : BlistTree) (account : AccountId) (groupId : String)
    (removed : Option UInt32) : Option (BlistSweep × Option Chat) :=
  if groupId = "" then some ({ tree, removed }, none)
  else
    match tree.lookupChat account groupId with
    | none => none
    | some selected =>
        (BlistSweep.run (isDuplicate account groupId selected) { tree, removed }).map
          (·, selected)

/-- `signal_group_sync_remove_managed_chats`. -/
def removeManagedChats (tree : BlistTree) (account : AccountId) (groupId : String) :
    Option BlistSweep :=
  if groupId = "" then some { tree, removed := some 0 }
  else
    BlistSweep.run (fun chat => chat.synced && chat.isOf account groupId)
      { tree, removed := some 0 }

end BlistTree

theorem find?_filter_eq {p q : Chat → Bool} {chats : List Chat}
    (keeps : ∀ chat, chats.find? p = some chat → q chat = true) :
    (chats.filter q).find? p = chats.find? p := by
  cases found : chats.find? p with
  | none =>
      rw [List.find?_eq_none] at found ⊢
      exact fun chat member => found chat (List.mem_of_mem_filter member)
  | some chat =>
      rcases List.find?_eq_some_iff_append.mp found with ⟨isFound, before, after, rfl, others⟩
      refine List.find?_eq_some_iff_append.mpr
        ⟨isFound, before.filter q, after.filter q, ?_, fun other member => ?_⟩
      · rw [List.filter_append, List.filter_cons_of_pos (keeps chat found)]
      · exact others other (List.mem_of_mem_filter member)

namespace BuddyList

variable {account : AccountId} {groupId : String}

theorem selectChat_some (selected : Chat) (candidates : List Chat) :
    selectChat account groupId (some selected) candidates =
      if selected.synced then
        candidates.find? (fun chat => chat.isOf account groupId && !chat.synced) <|> some selected
      else some selected := by
  induction candidates generalizing selected with
  | nil => simp [selectChat]
  | cons candidate later induction =>
      cases isOf : candidate.isOf account groupId
      · simp [selectChat, isOf, induction]
      · cases managed : selected.synced <;> cases own : candidate.synced <;>
          simp [selectChat, isOf, induction, managed, own]

theorem selectChat_none (candidates : List Chat) :
    selectChat account groupId none candidates =
      (candidates.find? (fun chat => chat.isOf account groupId && !chat.synced) <|>
        candidates.find? fun chat => chat.isOf account groupId && chat.synced) := by
  induction candidates with
  | nil => rfl
  | cons candidate later induction =>
      cases isOf : candidate.isOf account groupId
      · simp [selectChat, isOf, induction]
      · cases managed : candidate.synced <;>
          simp [selectChat, isOf, selectChat_some, managed]

end BuddyList

namespace BlistTree

variable {tree : BlistTree} {account : AccountId} {groupId : String}

theorem foldl_consider (part : List BlistEntry) (selected : Option Chat)
    (inTree : ∀ entry ∈ part, entry ∈ tree.entries) :
    (part.map Prod.fst).foldl (consider account groupId tree) selected =
      BuddyList.selectChat account groupId selected (part.filterMap Prod.snd) := by
  induction part generalizing selected with
  | nil => rfl
  | cons entry later induction =>
      have ⟨here, rest⟩ := List.forall_mem_cons.mp inTree
      rw [List.map_cons, List.foldl_cons, induction _ rest]
      rcases entry with ⟨id, _ | candidate⟩
      · simp [consider, chat?_of_mem here]
      · simp only [consider, chat?_of_mem here, List.filterMap_cons, BuddyList.selectChat]
        split_ifs <;> rfl

/-- The first loop ends with the user's first chat of the group, or else the first managed. -/
theorem lookupChat_eq (tree : BlistTree) (account : AccountId) (named : groupId ≠ "") :
    tree.lookupChat account groupId =
      some (BuddyList.selectChat account groupId none tree.chats) := by
  unfold lookupChat
  rw [if_neg named, chats, ← foldl_consider tree.entries none fun _ => id]
  refine Traversal.walk_eq_foldl (fun _ => tree.distinct) ?_ List.suffix_rfl le_rfl
  intro _ before id after split
  rw [split]
  exact (List.suffix_cons _ _).trans (List.suffix_append _ _)

/-- What the search for the chat of a group does. The counter is the caller's and wraps. -/
structure Resolves (tree : BlistTree) (account : AccountId) (groupId : String)
    (removed : Option UInt32) (after : BlistSweep) (selected : Option Chat) : Prop where
  /-- The user's first chat, or else the first managed one, in the order of the list. -/
  first : selected =
    (tree.chats.find? (fun chat => chat.isOf account groupId && !chat.synced) <|>
      tree.chats.find? fun chat => chat.isOf account groupId && chat.synced)
  present : ∀ chat, selected = some chat → chat ∈ after.tree.chats
  unmanaged : ∀ chat ∈ tree.chats, chat.isOf account groupId = true → chat.synced = false →
    chat ∈ after.tree.chats
  managed : ∀ chat ∈ after.tree.chats, chat.isOf account groupId = true → chat.synced = true →
    selected = some chat
  unchanged : (after.tree.chats.filter fun chat => !chat.isOf account groupId) =
    tree.chats.filter fun chat => !chat.isOf account groupId
  sublist : after.tree.chats.Sublist tree.chats
  counted : after.removed = removed.map
    (· + UInt32.ofNat (tree.chats.length - after.tree.chats.length))
  again : ∀ counter,
    after.tree.findChat account groupId counter = some ({ after with removed := counter }, selected)

section Resolution

variable {selected : Option Chat} {chat : Chat} {chats : List Chat}

theorem isDuplicate_of_not_synced (unmanaged : chat.synced = false) :
    isDuplicate account groupId selected chat = false := by
  simp [isDuplicate, unmanaged]

theorem isDuplicate_of_selected : isDuplicate account groupId (some chat) chat = false := by
  simp [isDuplicate]

theorem selectChat_filter
    (isSelected : BuddyList.selectChat account groupId none chats = selected) :
    BuddyList.selectChat account groupId none
      (chats.filter fun chat => !isDuplicate account groupId selected chat) = selected := by
  rw [BuddyList.selectChat_none] at isSelected ⊢
  rw [find?_filter_eq fun chat found => ?unmanaged]
  case unmanaged =>
    have isUnmanaged := List.find?_some found
    simp [isDuplicate_of_not_synced (by simpa using (Bool.and_eq_true_iff.mp isUnmanaged).2)]
  cases own : chats.find? fun chat => chat.isOf account groupId && !chat.synced with
  | some chat => simpa [own] using isSelected
  | none =>
      have isFirst : (chats.find? fun chat => chat.isOf account groupId && chat.synced) =
          selected := by
        simpa [own] using isSelected
      rw [find?_filter_eq fun chat found => ?_, isFirst]
      · rfl
      · rw [← isFirst, found]
        simp [isDuplicate_of_selected]

end Resolution

theorem findChat_spec (tree : BlistTree) (account : AccountId) (named : groupId ≠ "")
    (removed : Option UInt32) :
    ∃ after selected, tree.findChat account groupId removed = some (after, selected) ∧
      BuddyList.selectChat account groupId none tree.chats = selected ∧
      BlistSweep.Counts ⟨tree, removed⟩ after ∧
      after.tree.chats =
        tree.chats.filter fun chat => !isDuplicate account groupId selected chat := by
  generalize isSelected : BuddyList.selectChat account groupId none tree.chats = selected
  rcases BlistSweep.run_spec (isDuplicate account groupId selected) ⟨tree, removed⟩ with
    ⟨after, ends, counts, chats⟩
  refine ⟨after, selected, ?_, rfl, counts, chats⟩
  rw [findChat, if_neg named, lookupChat_eq tree account named, isSelected]
  simp [ends]

/-- The search ends; it settles which chat is the group's and leaves no other managed one. -/
theorem findChat_resolves (tree : BlistTree) (account : AccountId) (named : groupId ≠ "")
    (removed : Option UInt32) :
    ∃ after selected, tree.findChat account groupId removed = some (after, selected) ∧
      tree.Resolves account groupId removed after selected := by
  rcases tree.findChat_spec account named removed with
    ⟨after, selected, ends, isSelected, counts, chats⟩
  have stays : ∀ chat, chat ∈ after.tree.chats ↔
      chat ∈ tree.chats ∧ isDuplicate account groupId selected chat = false := by
    intro chat
    rw [chats, List.mem_filter, Bool.not_eq_true']
  have mem_of_selected : ∀ chat, selected = some chat → chat ∈ tree.chats := by
    rintro chat rfl
    rcases BuddyList.mem_of_selectChat isSelected with isNone | found
    · cases isNone
    · exact found.1
  refine ⟨after, selected, ends, ?_⟩
  refine ⟨?_, ?_, ?_, ?_, ?_, ?_, counts.removed_eq, ?_⟩
  · rw [← isSelected, BuddyList.selectChat_none]
  · rintro chat rfl
    exact (stays chat).mpr ⟨mem_of_selected chat rfl, isDuplicate_of_selected⟩
  · intro chat member _ unmanaged
    exact (stays chat).mpr ⟨member, isDuplicate_of_not_synced unmanaged⟩
  · intro chat member isOf managed
    have ⟨inTree, single⟩ := (stays chat).mp member
    have sameId : selected.map Chat.id = some chat.id := by
      simpa [isDuplicate, isOf, managed] using single
    rcases Option.map_eq_some_iff.mp sameId with ⟨other, rfl, same⟩
    rw [eq_of_id_eq (mem_of_selected other rfl) inTree same]
  · rw [chats, List.filter_filter]
    refine List.filter_congr fun chat _ => ?_
    cases isOf : chat.isOf account groupId <;> simp [isDuplicate, isOf]
  · rw [chats]
    exact List.filter_sublist
  · intro counter
    rw [findChat, if_neg named, lookupChat_eq after.tree account named, chats,
      selectChat_filter isSelected]
    have done : BlistSweep.run (isDuplicate account groupId selected) ⟨after.tree, counter⟩ =
        some ⟨after.tree, counter⟩ :=
      BlistSweep.run_of_keeps fun chat member => ((stays chat).mp member).2
    simp [done]

/-- Two managed chats beside the user's own, one of them alone in the group of an older
build. -/
def duplicated : BlistTree where
  groups :=
    [{ id := 1, name := legacyChatGroup
       children := [.chat { id := 2, account := 1, group := legacyChatGroup
                            groupKey := some "team", synced := true }] },
     { id := 3, name := "Chats"
       children := [.contact 4 [5],
         .chat { id := 6, account := 1, group := "Chats", groupId := some "team" },
         .chat { id := 7, account := 1, group := "Chats", groupId := some "team"
                 synced := true },
         .chat { id := 8, account := 1, group := "Chats", groupId := some "other"
                 synced := true }] }]
  distinct := by decide
  named := by decide
  placed := by simp

theorem findChat_resolves_duplicated :
    (duplicated.findChat 1 "team" (some 0)).map
        (fun result => (result.1.tree.nodes, result.1.removed, result.2.map Chat.id)) =
      some ([3, 4, 5, 6, 8], some 2, some 6) ∧
    ∃ after selected, duplicated.findChat 1 "team" (some 0) = some (after, selected) ∧
      duplicated.Resolves 1 "team" (some 0) after selected :=
  ⟨by decide, duplicated.findChat_resolves 1 (by decide) (some 0)⟩

/-- The list without its tree takes the same chat and is left with the same ones. -/
theorem findChat_flat {list : BuddyList} {walk : Walk} (account : AccountId)
    (named : groupId ≠ "") (removed : Option UInt32)
    (sameOrder : walk.findChats list.chats.nodes = tree.chats) :
    ∃ after, tree.findChat account groupId removed =
        some (after, (list.findChat walk account groupId).2) ∧
      (list.findChat walk account groupId).1.chats.nodes.Perm after.tree.chats := by
  rcases tree.findChat_spec account named removed with ⟨after, selected, ends, rfl, -, chats⟩
  rw [← sameOrder] at ends chats
  refine ⟨after, ends, ?_⟩
  rw [chats]
  exact (walk.findChats_perm _).symm.filter _

theorem removeManagedChats_flat {list : BuddyList} {walk : Walk} (account : AccountId)
    (named : groupId ≠ "") (sameOrder : walk.findChats list.chats.nodes = tree.chats) :
    ∃ after, tree.removeManagedChats account groupId = some after ∧
      BlistSweep.Counts ⟨tree, some 0⟩ after ∧
      (list.removeManagedChats account groupId).chats.nodes.Perm after.tree.chats := by
  rcases BlistSweep.run_spec (fun chat => chat.synced && chat.isOf account groupId)
    ⟨tree, some 0⟩ with ⟨after, ends, counts, chats⟩
  refine ⟨after, ?_, counts, ?_⟩
  · rw [removeManagedChats, if_neg named, ends]
  · rw [chats, ← sameOrder]
    exact (walk.findChats_perm _).symm.filter _

end BlistTree

end SignalPurple
