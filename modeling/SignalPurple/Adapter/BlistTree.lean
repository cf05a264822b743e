import Mathlib.Data.List.Flatten
import SignalPurple.Adapter.BuddyList
import SignalPurple.Foundation.Traversal

/-! # The nodes of the buddy list

libpurple keeps its list as a tree: groups, in them contacts and chats, and the buddies in the
contacts. The loops of the adapter follow `purple_blist_node_next` through all of it and remove
chats on the way, and with the last chat the group that older builds had made for them.
-/

namespace SignalPurple

inductive BlistChild where
  /-- A contact, with those of its buddies that a walk stops at. -/
  | contact (id : NodeId) (buddies : List NodeId)
  | chat (chat : Chat)
  deriving DecidableEq

structure BlistGroup where
  id : NodeId
  name : String
  children : List BlistChild
  deriving DecidableEq

abbrev BlistEntry := NodeId × Option Chat

namespace BlistChild

def entries : BlistChild → List BlistEntry
  | .contact id buddies => (id, none) :: buddies.map fun buddy => (buddy, none)
  | .chat saved => [(saved.id, some saved)]

def isChat (id : NodeId) : BlistChild → Bool
  | .contact _ _ => false
  | .chat saved => saved.id == id

end BlistChild

namespace BlistGroup

def entries (group : BlistGroup) : List BlistEntry :=
  (group.id, none) :: group.children.flatMap BlistChild.entries

def removeChat (id : NodeId) (group : BlistGroup) : BlistGroup :=
  { group with children := group.children.filter fun child => !child.isChat id }

def isEmptyNamed (name : String) (group : BlistGroup) : Bool :=
  group.name == name && group.children.isEmpty

end BlistGroup

/-- The nodes are different, groups are told apart by their names, and a chat knows the group
it is in. -/
structure BlistTree where
  groups : List BlistGroup
  distinct : ((groups.flatMap BlistGroup.entries).map Prod.fst).Nodup
  named : (groups.map (·.name)).Nodup
  placed : ∀ group ∈ groups, ∀ chat, .chat chat ∈ group.children → chat.group = group.name

namespace BlistTree

/-- All nodes, in the order of `purple_blist_node_next`. -/
def entries (tree : BlistTree) : List BlistEntry := tree.groups.flatMap BlistGroup.entries

def nodes (tree : BlistTree) : List NodeId := tree.entries.map Prod.fst

def chats (tree : BlistTree) : List Chat := tree.entries.filterMap Prod.snd

def chat? (tree : BlistTree) (id : NodeId) : Option Chat :=
  (tree.entries.find? (·.1 == id)).bind Prod.snd

/-! ## Removing nodes -/

def isOtherThan (id : NodeId) (entry : BlistEntry) : Bool := !entry.2.any (·.id == id)

theorem entries_child (id : NodeId) (child : BlistChild) :
    child.entries.filter (isOtherThan id) = if child.isChat id then [] else child.entries := by
  cases child with
  | contact contact buddies => simp [BlistChild.entries, BlistChild.isChat, isOtherThan]
  | chat chat =>
      by_cases same : chat.id = id <;>
        simp [BlistChild.entries, BlistChild.isChat, isOtherThan, same]

theorem entries_children (id : NodeId) (children : List BlistChild) :
    (children.filter fun child => !child.isChat id).flatMap BlistChild.entries =
      (children.flatMap BlistChild.entries).filter (isOtherThan id) := by
  induction children with
  | nil => rfl
  | cons child later induction =>
      rw [List.flatMap_cons, List.filter_append, entries_child, ← induction]
      cases isChat : child.isChat id <;> simp [isChat]

theorem entries_removeChat_group (id : NodeId) (group : BlistGroup) :
    (group.removeChat id).entries = group.entries.filter (isOtherThan id) := by
  unfold BlistGroup.entries BlistGroup.removeChat
  rw [entries_children, List.filter_cons_of_pos (by rfl)]

/-- `purple_blist_remove_chat`. -/
def removeChat (tree : BlistTree) (id : NodeId) : BlistTree where
  groups := tree.groups.map (BlistGroup.removeChat id)
  distinct := by
    refine tree.distinct.sublist (List.Sublist.map _ ?_)
    rw [List.flatMap_map]
    refine List.Sublist.flatMap_right _ fun group _ => ?_
    rw [entries_removeChat_group]
    exact List.filter_sublist
  named := by
    rw [List.map_map]
    exact tree.named
  placed := by
    intro group member chat inGroup
    rcases List.mem_map.mp member with ⟨before, known, rfl⟩
    exact tree.placed before known chat (List.mem_of_mem_filter inGroup)

/-- `purple_blist_remove_group` for the group of this name, if it has no children. -/
def removeEmptyGroup (tree : BlistTree) (name : String) : BlistTree where
  groups := tree.groups.filter fun group => !group.isEmptyNamed name
  distinct := tree.distinct.sublist ((List.filter_sublist.flatMap _).map _)
  named := tree.named.sublist (List.filter_sublist.map _)
  placed := fun group member => tree.placed group (List.mem_of_mem_filter member)

end BlistTree

/-! ## The loops -/

structure BlistSweep where
  tree : BlistTree
  /-- The counter of removed chats, if the caller wants to know. -/
  removed : Option UInt32

namespace BlistSweep

variable (removes : Chat → Bool)

def visit (sweep : BlistSweep) (id : NodeId) : BlistSweep :=
  match sweep.tree.chat? id with
  | none => sweep
  | some chat =>
      if removes chat then
        let removed := sweep.tree.removeChat id
        { tree := if chat.group = legacyChatGroup then removed.removeEmptyGroup legacyChatGroup
            else removed
          removed := sweep.removed.map (· + 1) }
      else sweep

def run (sweep : BlistSweep) : Option BlistSweep :=
  Traversal.walk (·.tree.nodes) (visit removes) sweep.tree.nodes.length sweep
    sweep.tree.nodes.head?

end BlistSweep

/-! ## The nodes and the chats among them -/

namespace BlistTree

variable {tree : BlistTree} {chat : Chat} {id : NodeId} {entry : BlistEntry}

theorem exists_group_of_mem_entries (member : (id, some chat) ∈ tree.entries) :
    chat.id = id ∧ ∃ group ∈ tree.groups, .chat chat ∈ group.children := by
  rcases List.mem_flatMap.mp member with ⟨group, known, inGroup⟩
  rcases List.mem_cons.mp inGroup with isGroup | inChildren
  · cases isGroup
  rcases List.mem_flatMap.mp inChildren with ⟨child, isChild, inChild⟩
  cases child with
  | contact contact buddies => simp [BlistChild.entries] at inChild
  | chat saved =>
      cases List.mem_singleton.mp inChild
      exact ⟨rfl, group, known, isChild⟩

theorem mem_chats : chat ∈ tree.chats ↔ (chat.id, some chat) ∈ tree.entries := by
  constructor
  · intro member
    rcases List.mem_filterMap.mp member with ⟨⟨id, saved⟩, present, isChat⟩
    cases isChat
    rw [(exists_group_of_mem_entries present).1]
    exact present
  · intro present
    exact List.mem_filterMap.mpr ⟨_, present, rfl⟩

theorem chat?_of_mem (member : entry ∈ tree.entries) : tree.chat? entry.1 = entry.2 := by
  unfold chat?
  cases found : tree.entries.find? (·.1 == entry.1) with
  | none => simpa using List.find?_eq_none.mp found entry member
  | some other =>
      have same : other.1 = entry.1 := by simpa using List.find?_some found
      have isOther : other = entry :=
        List.inj_on_of_nodup_map tree.distinct (List.mem_of_find?_eq_some found) member same
      rw [isOther, Option.bind_some]

theorem chat?_eq_some_iff : tree.chat? id = some chat ↔ chat ∈ tree.chats ∧ chat.id = id := by
  constructor
  · intro found
    rcases Option.bind_eq_some_iff.mp found with ⟨⟨other, saved⟩, isEntry, rfl⟩
    have same : other = id := by simpa using List.find?_some isEntry
    subst same
    have member := List.mem_of_find?_eq_some isEntry
    have isHere := (exists_group_of_mem_entries member).1
    rw [mem_chats, isHere]
    exact ⟨member, rfl⟩
  · rintro ⟨member, rfl⟩
    exact chat?_of_mem (mem_chats.mp member)

theorem mem_nodes_of_mem_chats (member : chat ∈ tree.chats) : chat.id ∈ tree.nodes :=
  List.mem_map.mpr ⟨_, mem_chats.mp member, rfl⟩

theorem eq_of_id_eq {other : Chat} (one : chat ∈ tree.chats) (two : other ∈ tree.chats)
    (same : chat.id = other.id) : chat = other := by
  have isOther := chat?_eq_some_iff.mpr ⟨two, same.symm⟩
  rw [chat?_eq_some_iff.mpr ⟨one, rfl⟩] at isOther
  exact Option.some.inj isOther

theorem nodup_chats (tree : BlistTree) : tree.chats.Nodup := by
  have ids : tree.chats.map Chat.id = (tree.entries.filter (·.2.isSome)).map Prod.fst := by
    unfold chats
    rw [List.map_filterMap, ← List.filterMap_eq_map, List.filterMap_filter]
    refine List.filterMap_congr fun entry member => ?_
    rcases entry with ⟨id, _ | saved⟩
    · rfl
    · simp [(exists_group_of_mem_entries member).1]
  refine List.Nodup.of_map Chat.id ?_
  rw [ids]
  exact tree.distinct.sublist (List.filter_sublist.map _)

/-! ## What the removals leave -/

theorem entries_removeChat (tree : BlistTree) (id : NodeId) :
    (tree.removeChat id).entries = tree.entries.filter (isOtherThan id) := by
  unfold entries removeChat
  rw [List.flatMap_map, List.filter_flatMap]
  simp only [entries_removeChat_group]

theorem chats_removeChat (tree : BlistTree) (id : NodeId) :
    (tree.removeChat id).chats = tree.chats.filter fun chat => chat.id != id := by
  unfold chats
  rw [entries_removeChat, List.filter_filterMap, List.filterMap_filter]
  refine List.filterMap_congr fun entry _ => ?_
  rcases entry with ⟨other, _ | saved⟩
  · rfl
  · by_cases same : saved.id = id <;> simp [isOtherThan, Option.filter, same]

theorem chats_filter_groups (name : String) (groups : List BlistGroup) :
    ((groups.filter fun group => !group.isEmptyNamed name).flatMap BlistGroup.entries).filterMap
      Prod.snd = (groups.flatMap BlistGroup.entries).filterMap Prod.snd := by
  induction groups with
  | nil => rfl
  | cons group later induction =>
      by_cases empty : group.isEmptyNamed name
      · have noChildren : group.children = [] := by
          simpa using (Bool.and_eq_true_iff.mp empty).2
        rw [List.filter_cons_of_neg (by simp [empty]), induction]
        simp [BlistGroup.entries, noChildren]
      · rw [List.filter_cons_of_pos (by simp [empty])]
        simp [induction]

theorem chats_removeEmptyGroup (tree : BlistTree) (name : String) :
    (tree.removeEmptyGroup name).chats = tree.chats :=
  chats_filter_groups name tree.groups

/-! A chat that is removed is a child of the only group of its group's name. What lies behind
the chat is behind that group as well, and stays in place when the group goes too. -/

structure Place (tree : BlistTree) (chat : Chat) where
  groupsBefore : List BlistGroup
  group : BlistGroup
  groupsAfter : List BlistGroup
  before : List BlistChild
  after : List BlistChild
  groups_eq : tree.groups = groupsBefore ++ group :: groupsAfter
  children_eq : group.children = before ++ .chat chat :: after

theorem exists_place (member : chat ∈ tree.chats) : Nonempty (tree.Place chat) := by
  rcases exists_group_of_mem_entries (mem_chats.mp member) with ⟨-, group, known, isChild⟩
  rcases List.append_of_mem known with ⟨groupsBefore, groupsAfter, groups_eq⟩
  rcases List.append_of_mem isChild with ⟨before, after, children_eq⟩
  exact ⟨⟨groupsBefore, group, groupsAfter, before, after, groups_eq, children_eq⟩⟩

namespace Place

variable (place : tree.Place chat)

def entriesBefore : List BlistEntry :=
  place.groupsBefore.flatMap BlistGroup.entries ++
    (place.group.id, none) :: place.before.flatMap BlistChild.entries

def entriesAfter : List BlistEntry :=
  place.after.flatMap BlistChild.entries ++ place.groupsAfter.flatMap BlistGroup.entries

theorem entries_eq :
    tree.entries = place.entriesBefore ++ (chat.id, some chat) :: place.entriesAfter := by
  unfold entries
  rw [place.groups_eq]
  simp [BlistGroup.entries, place.children_eq, BlistChild.entries, entriesBefore, entriesAfter]

theorem nodes_eq : tree.nodes =
    place.entriesBefore.map Prod.fst ++ chat.id :: place.entriesAfter.map Prod.fst := by
  rw [nodes, place.entries_eq, List.map_append, List.map_cons]

theorem distinct_nodes : chat.id ∉ place.entriesBefore.map Prod.fst ∧
    chat.id ∉ place.entriesAfter.map Prod.fst := by
  have distinct : tree.nodes.Nodup := tree.distinct
  rw [place.nodes_eq] at distinct
  refine ⟨fun member => ?_, (List.nodup_cons.mp distinct.of_append_right).1⟩
  exact List.disjoint_of_nodup_append distinct member List.mem_cons_self

theorem after_eq {before after : List NodeId} (split : tree.nodes = before ++ chat.id :: after) :
    after = place.entriesAfter.map Prod.fst := by
  rw [place.nodes_eq] at split
  have distinct := place.distinct_nodes
  exact ((List.append_cons_inj_of_notMem distinct.1 distinct.2).mp split).2.2.symm

theorem group_eq : chat.group = place.group.name := by
  refine tree.placed place.group ?_ chat ?_
  · rw [place.groups_eq]
    exact List.mem_append_right _ List.mem_cons_self
  · rw [place.children_eq]
    exact List.mem_append_right _ List.mem_cons_self

theorem isOtherThan_of_mem_after (member : entry ∈ place.entriesAfter) :
    isOtherThan chat.id entry = true := by
  have inTree : entry ∈ tree.entries := by
    rw [place.entries_eq]
    exact List.mem_append_right _ (List.mem_cons_of_mem _ member)
  rcases entry with ⟨id, _ | saved⟩
  · rfl
  · have isNode : saved.id = id := (exists_group_of_mem_entries inTree).1
    have differs : id ≠ chat.id := by
      rintro rfl
      exact place.distinct_nodes.2 (List.mem_map_of_mem member)
    simp [isOtherThan, isNode, differs]

theorem filter_entriesAfter :
    place.entriesAfter.filter (isOtherThan chat.id) = place.entriesAfter :=
  List.filter_eq_self.mpr fun _ member => place.isOtherThan_of_mem_after member

theorem suffix_removeChat : place.entriesAfter <:+ (tree.removeChat chat.id).entries := by
  rw [entries_removeChat, place.entries_eq, List.filter_append, List.filter_cons_of_neg
    (by simp [isOtherThan]), place.filter_entriesAfter]
  exact List.suffix_append _ _

theorem name_ne_of_mem_groupsAfter {other : BlistGroup} (member : other ∈ place.groupsAfter) :
    other.name ≠ place.group.name := by
  have distinct := tree.named
  rw [place.groups_eq, List.map_append, List.map_cons] at distinct
  intro same
  refine (List.nodup_cons.mp distinct.of_append_right).1 ?_
  rw [← same]
  exact List.mem_map_of_mem member

theorem filter_groupsAfter :
    (place.groupsAfter.map (BlistGroup.removeChat chat.id)).filter
        (fun group => !group.isEmptyNamed place.group.name) =
      place.groupsAfter.map (BlistGroup.removeChat chat.id) := by
  refine List.filter_eq_self.mpr fun group member => ?_
  rcases List.mem_map.mp member with ⟨before, isAfter, rfl⟩
  have differs := place.name_ne_of_mem_groupsAfter isAfter
  simp [BlistGroup.isEmptyNamed, BlistGroup.removeChat, differs]

theorem suffix_group :
    (place.after.flatMap BlistChild.entries).filter (isOtherThan chat.id) <:+
      ([place.group.removeChat chat.id].filter
        fun group => !group.isEmptyNamed place.group.name).flatMap BlistGroup.entries := by
  have split : (place.group.removeChat chat.id).children =
      (place.before.filter fun child => !child.isChat chat.id) ++
        place.after.filter fun child => !child.isChat chat.id := by
    simp [BlistGroup.removeChat, place.children_eq, BlistChild.isChat]
  rw [← entries_children]
  by_cases empty : (place.group.removeChat chat.id).isEmptyNamed place.group.name
  · have noChildren : (place.group.removeChat chat.id).children = [] := by
      simpa using (Bool.and_eq_true_iff.mp empty).2
    rw [split, List.append_eq_nil_iff] at noChildren
    rw [noChildren.2]
    exact List.nil_suffix
  · rw [List.filter_cons_of_pos (by simp [empty])]
    simp only [List.filter_nil, List.flatMap_cons, List.flatMap_nil, List.append_nil,
      BlistGroup.entries, split, List.flatMap_append]
    exact (List.suffix_append _ _).trans (List.suffix_cons _ _)

theorem suffix_removeEmptyGroup :
    place.entriesAfter <:+
      ((tree.removeChat chat.id).removeEmptyGroup place.group.name).entries := by
  rcases place.suffix_group with ⟨front, isFront⟩
  have later : (place.groupsAfter.map (BlistGroup.removeChat chat.id)).flatMap
      BlistGroup.entries =
        (place.groupsAfter.flatMap BlistGroup.entries).filter (isOtherThan chat.id) := by
    rw [List.flatMap_map, List.filter_flatMap]
    simp only [entries_removeChat_group]
  rw [← place.filter_entriesAfter]
  unfold entries removeEmptyGroup removeChat entriesAfter
  simp only [place.groups_eq, List.map_append, List.map_cons, List.filter_append]
  rw [← List.singleton_append, List.filter_append, place.filter_groupsAfter, List.flatMap_append,
    List.flatMap_append, later, ← isFront, List.append_assoc, ← List.append_assoc]
  exact List.suffix_append _ _

end Place

end BlistTree

/-! ## The loops come to every chat -/

namespace BlistSweep

variable {removes : Chat → Bool} {sweep : BlistSweep} {id : NodeId}

open BlistTree

theorem suffix_visit {before after : List NodeId}
    (split : sweep.tree.nodes = before ++ id :: after) :
    after <:+ (visit removes sweep id).tree.nodes := by
  have unchanged : after <:+ sweep.tree.nodes := by
    rw [split]
    exact (List.suffix_cons _ _).trans (List.suffix_append _ _)
  unfold visit
  split
  next => exact unchanged
  next chat found =>
  rcases chat?_eq_some_iff.mp found with ⟨member, rfl⟩
  rcases exists_place member with ⟨place⟩
  rw [place.after_eq split]
  split
  · dsimp only
    split
    next isLegacy =>
      rw [← isLegacy, place.group_eq]
      exact place.suffix_removeEmptyGroup.map _
    next => exact place.suffix_removeChat.map _
  · rw [← place.after_eq split]
    exact unchanged

theorem visit_of_removes {chat : Chat} (member : chat ∈ sweep.tree.chats)
    (removed : removes chat = true) :
    (visit removes sweep chat.id).tree.chats = sweep.tree.chats.erase chat ∧
      (visit removes sweep chat.id).removed = sweep.removed.map (· + 1) := by
  have found := chat?_eq_some_iff.mpr ⟨member, rfl⟩
  have rest : (sweep.tree.removeChat chat.id).chats = sweep.tree.chats.erase chat := by
    rw [chats_removeChat, sweep.tree.nodup_chats.erase_eq_filter]
    refine List.filter_congr fun other isOther => ?_
    have same_iff : other.id = chat.id ↔ other = chat :=
      ⟨eq_of_id_eq isOther member, congrArg Chat.id⟩
    simp [bne, beq_eq_decide, same_iff]
  simp only [visit, found, removed, if_true, and_true]
  split
  · rw [chats_removeEmptyGroup, rest]
  · exact rest

theorem visit_of_keeps (keeps : ∀ chat ∈ sweep.tree.chats, chat.id = id → removes chat = false) :
    visit removes sweep id = sweep := by
  unfold visit
  split
  next => rfl
  next chat found =>
  rcases chat?_eq_some_iff.mp found with ⟨member, isHere⟩
  simp [keeps chat member isHere]

theorem visit_cases (removes : Chat → Bool) (sweep : BlistSweep) (id : NodeId) :
    (∃ chat ∈ sweep.tree.chats, chat.id = id ∧ removes chat = true) ∨
      ∀ chat ∈ sweep.tree.chats, chat.id = id → removes chat = false := by
  by_cases some : ∃ chat ∈ sweep.tree.chats, chat.id = id ∧ removes chat = true
  · exact Or.inl some
  · exact Or.inr fun chat member isHere => by
      by_contra removed
      exact some ⟨chat, member, isHere, by simpa using removed⟩

theorem chats_visit : (visit removes sweep id).tree.chats =
    sweep.tree.chats.filter fun chat => !(chat.id == id && removes chat) := by
  rcases visit_cases removes sweep id with ⟨gone, member, rfl, removed⟩ | keeps
  · rw [(visit_of_removes member removed).1, sweep.tree.nodup_chats.erase_eq_filter]
    refine List.filter_congr fun chat isHere => ?_
    by_cases same : chat.id = gone.id
    · rw [eq_of_id_eq isHere member same]
      simp [removed]
    · have differs : chat ≠ gone := fun isGone => same (congrArg Chat.id isGone)
      simp [bne, beq_eq_decide, same, differs]
  · rw [visit_of_keeps keeps]
    refine (List.filter_eq_self.mpr fun chat member => ?_).symm
    by_cases same : chat.id = id
    · simp [keeps chat member same]
    · simp [same]

theorem chats_foldl_visit (removes : Chat → Bool) (sweep : BlistSweep) (ids : List NodeId) :
    (ids.foldl (visit removes) sweep).tree.chats =
      sweep.tree.chats.filter fun chat => !(ids.contains chat.id && removes chat) := by
  induction ids generalizing sweep with
  | nil => simp
  | cons id later induction =>
      rw [List.foldl_cons, induction, chats_visit, List.filter_filter]
      refine List.filter_congr fun chat _ => ?_
      cases removes chat <;> simp [beq_eq_decide, Bool.and_comm]

/-- From one state of the loop to a later one, as many chats went away as were counted. -/
structure Counts (before after : BlistSweep) : Prop where
  fewer : after.tree.chats.length ≤ before.tree.chats.length
  removed_eq : after.removed = before.removed.map
    (· + UInt32.ofNat (before.tree.chats.length - after.tree.chats.length))

theorem counts_refl (sweep : BlistSweep) : sweep.Counts sweep := by
  refine ⟨le_rfl, ?_⟩
  cases sweep.removed <;> simp

theorem Counts.trans {first second third : BlistSweep} (one : first.Counts second)
    (two : second.Counts third) : first.Counts third := by
  have total : first.tree.chats.length - third.tree.chats.length =
      (first.tree.chats.length - second.tree.chats.length) +
        (second.tree.chats.length - third.tree.chats.length) := by
    have := one.fewer
    have := two.fewer
    omega
  refine ⟨two.fewer.trans one.fewer, ?_⟩
  rw [two.removed_eq, one.removed_eq, total, UInt32.ofNat_add]
  cases first.removed <;> simp [UInt32.add_assoc]

theorem counts_visit (removes : Chat → Bool) (sweep : BlistSweep) (id : NodeId) :
    sweep.Counts (visit removes sweep id) := by
  rcases visit_cases removes sweep id with ⟨gone, member, rfl, removed⟩ | keeps
  · have ⟨chats, counted⟩ := visit_of_removes member removed
    have one : sweep.tree.chats.length - (sweep.tree.chats.erase gone).length = 1 := by
      have := List.length_erase_of_mem member
      have := List.length_pos_of_mem member
      omega
    refine ⟨?_, ?_⟩
    · rw [chats]
      exact List.erase_sublist.length_le
    · rw [counted, chats, one]
      rfl
  · rw [visit_of_keeps keeps]
    exact counts_refl sweep

theorem counts_foldl_visit (removes : Chat → Bool) (sweep : BlistSweep) (ids : List NodeId) :
    sweep.Counts (ids.foldl (visit removes) sweep) := by
  induction ids generalizing sweep with
  | nil => exact counts_refl sweep
  | cons id later induction => exact (counts_visit removes sweep id).trans (induction _)

theorem run_eq_foldl (removes : Chat → Bool) (sweep : BlistSweep) :
    sweep.run removes = some (sweep.tree.nodes.foldl (visit removes) sweep) := by
  unfold run
  refine Traversal.walk_eq_foldl ?_ ?_ List.suffix_rfl le_rfl
  · exact fun sweep => sweep.tree.distinct
  · exact fun _ _ _ _ split => suffix_visit split

/-- The loop ends, with exactly the chats gone that it was to remove. -/
theorem run_spec (removes : Chat → Bool) (sweep : BlistSweep) :
    ∃ after, sweep.run removes = some after ∧ sweep.Counts after ∧
      after.tree.chats = sweep.tree.chats.filter fun chat => !removes chat := by
  refine ⟨_, run_eq_foldl removes sweep, counts_foldl_visit removes sweep _, ?_⟩
  rw [chats_foldl_visit]
  refine List.filter_congr fun chat member => ?_
  simp [mem_nodes_of_mem_chats member]

theorem run_of_keeps (keeps : ∀ chat ∈ sweep.tree.chats, removes chat = false) :
    sweep.run removes = some sweep := by
  have unchanged : ∀ ids : List NodeId, ids.foldl (visit removes) sweep = sweep := by
    intro ids
    induction ids with
    | nil => rfl
    | cons id later induction =>
        rw [List.foldl_cons, visit_of_keeps fun chat member _ => keeps chat member, induction]
  rw [run_eq_foldl, unchanged]

end BlistSweep

end SignalPurple
