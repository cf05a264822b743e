import Mathlib.Data.Finset.Sort
import Mathlib.Data.String.Basic
import SignalPurple.Foundation.Nodes

/-! # The buddy list

libpurple's list of buddies and chats as far as the adapter reads and changes it, and
`blist_sync.c`, which places entries in it. Buddies are merged into contacts, and it is
contacts and chats that libpurple keeps in groups.
-/

namespace SignalPurple

abbrev AccountId := Nat
abbrev NodeId := Nat

structure Buddy where
  id : NodeId
  account : AccountId
  name : String
  contact : NodeId
  /-- The marker `signal-purple-synced-contact`. -/
  synced : Bool := false
  serverAlias : Option String := none
  deriving DecidableEq

structure Buddy.Same (one other : Buddy) : Prop where
  id : one.id = other.id
  account : one.account = other.account
  name : one.name = other.name
  contact : one.contact = other.contact

theorem Buddy.Same.trans {first second third : Buddy} (one : first.Same second)
    (other : second.Same third) : first.Same third :=
  ⟨one.id.trans other.id, one.account.trans other.account, one.name.trans other.name,
    one.contact.trans other.contact⟩

structure Chat where
  id : NodeId
  account : AccountId
  group : String
  /-- The component `group-id`. -/
  groupId : Option String := none
  /-- The component `group-key` of older builds. -/
  groupKey : Option String := none
  title : Option String := none
  /-- The marker `signal-purple-synced-group`. -/
  synced : Bool := false
  syncedTitle : Option String := none
  deriving DecidableEq

structure BuddyList where
  buddies : Nodes Buddy Buddy.id := {}
  chats : Nodes Chat Chat.id := {}
  /-- The group that holds a contact. -/
  contactGroup : NodeId → String := fun _ => ""
  nextContact : NodeId := 0
  known : ∀ buddy ∈ buddies.nodes, buddy.contact < nextContact := by exact List.forall_mem_nil _

def legacyBuddyGroup : String := "Signal"
def legacyChatGroup : String := "Signal groups"

/-- How libpurple compares names, and its localized group names. -/
structure BuddyListNames where
  normalize : AccountId → String → String
  stripUnprintables : String → String
  defaultBuddyGroup : String
  defaultChatGroup : String

/-- How libpurple walks the list, and GLib a hash table, while one event is handled. Every
entry is found, in an order that is theirs. -/
structure Walk where
  findBuddies : List Buddy → List Buddy
  findBuddy : List Buddy → Option Buddy
  findChats : List Chat → List Chat
  listKeys : Finset String → List String
  findBuddies_perm : ∀ found, (findBuddies found).Perm found
  findBuddy_mem : ∀ {found buddy}, findBuddy found = some buddy → buddy ∈ found
  findBuddy_isSome : ∀ {found}, found ≠ [] → (findBuddy found).isSome = true
  findChats_perm : ∀ found, (findChats found).Perm found
  mem_listKeys : ∀ keys key, key ∈ listKeys keys ↔ key ∈ keys

def Walk.inOrder : Walk where
  findBuddies := id
  findBuddy := List.head?
  findChats := id
  listKeys := fun keys => keys.sort (· ≤ ·)
  findBuddies_perm := fun found => List.Perm.refl found
  findBuddy_mem := fun isHead => List.mem_of_head? isHead
  findBuddy_isSome := fun nonempty => by simpa using nonempty
  findChats_perm := fun found => List.Perm.refl found
  mem_listKeys := fun keys _ => Finset.mem_sort _

namespace BuddyList

/-! ## Changes of single entries -/

def updateBuddy (list : BuddyList) (id : NodeId) (change : Buddy → Buddy)
    (same : ∀ buddy, (change buddy).Same buddy) : BuddyList where
  buddies := list.buddies.update (fun buddy => if buddy.id = id then change buddy else buddy)
    (by intro buddy; split <;> simp [(same buddy).id])
  chats := list.chats
  contactGroup := list.contactGroup
  nextContact := list.nextContact
  known := by
    intro buddy member
    rcases List.mem_map.mp member with ⟨before, inList, rfl⟩
    have bound := list.known before inList
    split
    · rw [(same before).contact]
      exact bound
    · exact bound

def setSynced (list : BuddyList) (id : NodeId) : BuddyList :=
  list.updateBuddy id (fun buddy => { buddy with synced := true }) fun _ => ⟨rfl, rfl, rfl, rfl⟩

def serverAliasBuddy (list : BuddyList) (id : NodeId) (serverAlias : Option String) :
    BuddyList :=
  list.updateBuddy id (fun buddy => { buddy with serverAlias }) fun _ => ⟨rfl, rfl, rfl, rfl⟩

def filterBuddies (list : BuddyList) (keep : Buddy → Bool) : BuddyList where
  buddies := list.buddies.filter keep
  chats := list.chats
  contactGroup := list.contactGroup
  nextContact := list.nextContact
  known := fun buddy member => list.known buddy (List.mem_of_mem_filter member)

def withChats (list : BuddyList) (chats : Nodes Chat Chat.id) : BuddyList where
  buddies := list.buddies
  chats
  contactGroup := list.contactGroup
  nextContact := list.nextContact
  known := list.known

def group (list : BuddyList) (buddy : Buddy) : String := list.contactGroup buddy.contact

section Names

def isNamed (names : BuddyListNames) (account : AccountId) (name : String) (buddy : Buddy) : Bool :=
  buddy.account == account &&
    names.normalize account buddy.name == names.normalize account name

/-! ## What a change leaves of the buddies -/

def Keeps (list : BuddyList) (buddy : Buddy) : Prop :=
  ∃ kept ∈ list.buddies.nodes, kept.Same buddy

/-- Another buddy of the same account and name is kept, in the default group. -/
def HasTwin (names : BuddyListNames) (list next : BuddyList) (buddy : Buddy) : Prop :=
  ∃ twin ∈ list.buddies.nodes, twin.id ≠ buddy.id ∧
    isNamed names buddy.account buddy.name twin = true ∧
    next.Keeps twin ∧ next.group twin = names.defaultBuddyGroup

structure Extends (list next : BuddyList) : Prop where
  keeps : ∀ buddy ∈ list.buddies.nodes, next.Keeps buddy
  places : ∀ buddy ∈ list.buddies.nodes, next.group buddy = list.group buddy

variable {names : BuddyListNames} {list middle next : BuddyList} {buddy : Buddy}

theorem Keeps.congr {before : Buddy} (same : before.Same buddy) (kept : list.Keeps before) :
    list.Keeps buddy := by
  rcases kept with ⟨after, member, still⟩
  exact ⟨after, member, still.trans same⟩

theorem Extends.keep (grows : list.Extends next) (kept : list.Keeps buddy) :
    next.Keeps buddy := by
  rcases kept with ⟨before, member, same⟩
  exact (grows.keeps before member).congr same

theorem HasTwin.congr {before : Buddy} (same : before.Same buddy)
    (twin : list.HasTwin names next before) : list.HasTwin names next buddy := by
  rcases twin with ⟨other, member, differs, named, kept⟩
  exact ⟨other, member, same.id ▸ differs, same.account ▸ same.name ▸ named, kept⟩

theorem HasTwin.extend (twin : list.HasTwin names middle buddy) (grows : middle.Extends next) :
    list.HasTwin names next buddy := by
  rcases twin with ⟨other, member, differs, named, kept, place⟩
  refine ⟨other, member, differs, named, grows.keep kept, ?_⟩
  rcases kept with ⟨present, inMiddle, same⟩
  have places := grows.places present inMiddle
  simp only [group, same.contact] at places place ⊢
  exact places.trans place

theorem Extends.trans (one : list.Extends middle) (other : middle.Extends next) :
    list.Extends next where
  keeps := fun buddy member => other.keep (one.keeps buddy member)
  places := by
    intro buddy member
    rcases one.keeps buddy member with ⟨kept, inMiddle, same⟩
    have places := other.places kept inMiddle
    simp only [group, same.contact] at places
    exact places.trans (one.places buddy member)

theorem extends_refl (list : BuddyList) : list.Extends list where
  keeps := fun buddy member => ⟨buddy, member, rfl, rfl, rfl, rfl⟩
  places := fun _ _ => rfl

theorem extends_updateBuddy (list : BuddyList) (id : NodeId) {change : Buddy → Buddy}
    (same : ∀ buddy, (change buddy).Same buddy) :
    list.Extends (list.updateBuddy id change same) where
  keeps := by
    intro buddy member
    refine ⟨_, List.mem_map.mpr ⟨buddy, member, rfl⟩, ?_⟩
    split
    · exact same buddy
    · exact ⟨rfl, rfl, rfl, rfl⟩
  places := fun _ _ => rfl

theorem extends_setSynced (list : BuddyList) (id : NodeId) : list.Extends (list.setSynced id) :=
  extends_updateBuddy list id _

theorem extends_serverAliasBuddy (list : BuddyList) (id : NodeId) (serverAlias : Option String) :
    list.Extends (list.serverAliasBuddy id serverAlias) :=
  extends_updateBuddy list id _

theorem HasTwin.of_updateBuddy {id : NodeId} {change : Buddy → Buddy}
    {same : ∀ buddy, (change buddy).Same buddy}
    (twin : (list.updateBuddy id change same).HasTwin names next buddy) :
    list.HasTwin names next buddy := by
  rcases twin with ⟨changed, member, differs, named, kept, place⟩
  rcases List.mem_map.mp member with ⟨other, inList, rfl⟩
  have still : (if other.id = id then change other else other).Same other := by
    split
    · exact same other
    · exact ⟨rfl, rfl, rfl, rfl⟩
  refine ⟨other, inList, still.id ▸ differs, ?_, kept.congr still, ?_⟩
  · unfold isNamed at named ⊢
    rw [← still.account, ← still.name]
    exact named
  · rw [← place]
    exact congrArg next.contactGroup still.contact.symm

end Names

end BuddyList

/-- libpurple, as far as it changes the list on its own: what the adapter asks of it, and what
the adapter may rely on. -/
structure BuddyListLibrary extends BuddyListNames where
  /-- `purple_blist_add_buddy` without a place, and the id of the new buddy. -/
  addBuddy : BuddyList → AccountId → String → BuddyList × NodeId
  /-- `purple_blist_add_contact` without a place: the contact is moved to the default group. -/
  addContact : Walk → BuddyList → NodeId → BuddyList
  extends_addBuddy : ∀ (list : BuddyList) account name, list.Extends (addBuddy list account name).1
  chats_addBuddy : ∀ list account name, (addBuddy list account name).1.chats = list.chats
  /-- Every other buddy is kept. One of the contact that is destroyed has a twin that is
  not. -/
  addContact_cases : ∀ walk (list : BuddyList) contact, ∀ buddy ∈ list.buddies.nodes,
    (addContact walk list contact).Keeps buddy ∨
      buddy.contact = contact ∧
        list.HasTwin toBuddyListNames (addContact walk list contact) buddy
  chats_addContact : ∀ walk list contact, (addContact walk list contact).chats = list.chats

instance : Coe BuddyListLibrary BuddyListNames := ⟨BuddyListLibrary.toBuddyListNames⟩

namespace BuddyList

section Library

variable (purple : BuddyListLibrary) (walk : Walk)

/-! ## Placement of buddies -/

/-- `signal_blist_sync_add_buddy`. -/
def addBuddy (list : BuddyList) (account : AccountId) (name : String) : BuddyList × NodeId :=
  let added := purple.addBuddy list account name
  (added.1.setSynced added.2, added.2)

/-- The loop of `signal_blist_sync_find_buddy`. A managed buddy in the legacy group ends
it. -/
def selectBuddy (list : BuddyList) (fallback : Option Buddy) :
    (managed unmanagedLegacy : Option Buddy) → List Buddy → Option Buddy
  | managed, unmanagedLegacy, [] => managed <|> unmanagedLegacy <|> fallback
  | managed, unmanagedLegacy, candidate :: later =>
      let isLegacy := list.group candidate == legacyBuddyGroup
      if candidate.synced && isLegacy then some candidate
      else if candidate.synced && managed.isNone then
        selectBuddy list fallback (some candidate) unmanagedLegacy later
      else if !candidate.synced && isLegacy && unmanagedLegacy.isNone then
        selectBuddy list fallback managed (some candidate) later
      else selectBuddy list fallback managed unmanagedLegacy later

def findBuddy (list : BuddyList) (account : AccountId) (name : String) : Option Buddy :=
  let found := list.buddies.nodes.filter (isNamed purple account name)
  list.selectBuddy (walk.findBuddy found) none none (walk.findBuddies found)

/-- A managed contact leaves the legacy group. Its buddy may be destroyed on the way, so
it is looked up again. -/
def migrateBuddy (list : BuddyList) (buddy : Buddy) : BuddyList × Option Buddy :=
  if !buddy.synced || list.group buddy != legacyBuddyGroup then (list, some buddy)
  else
    let moved := purple.addContact walk list buddy.contact
    (moved, moved.findBuddy purple walk buddy.account buddy.name)

def adoptLegacyBuddy (list : BuddyList) (account : AccountId) (name : String) :
    BuddyList × Option Buddy :=
  match list.findBuddy purple walk account name with
  | none => (list, none)
  | some buddy =>
      if !buddy.synced && buddy.account == account && list.group buddy == legacyBuddyGroup then
        (list.setSynced buddy.id).migrateBuddy purple walk { buddy with synced := true }
      else list.migrateBuddy purple walk buddy

variable {purple walk} {list next middle : BuddyList} {buddy : Buddy}

theorem mem_of_selectBuddy {fallback managed unmanagedLegacy : Option Buddy}
    {candidates : List Buddy}
    (selected : list.selectBuddy fallback managed unmanagedLegacy candidates = some buddy) :
    buddy ∈ candidates ∨ managed = some buddy ∨ unmanagedLegacy = some buddy ∨
      fallback = some buddy := by
  fun_induction selectBuddy list fallback managed unmanagedLegacy candidates with
  | case1 managed unmanagedLegacy =>
      cases managed <;> cases unmanagedLegacy <;> simp_all
  | case2 managed unmanagedLegacy candidate later isLegacy ends =>
      exact Or.inl (Option.some.inj selected ▸ List.mem_cons_self)
  | case3 | case4 | case5 => grind

theorem findBuddy_spec {account : AccountId} {name : String}
    (found : list.findBuddy purple walk account name = some buddy) :
    buddy ∈ list.buddies.nodes ∧ isNamed purple account name buddy = true := by
  apply List.mem_filter.mp
  rcases mem_of_selectBuddy found with listed | isManaged | isLegacy | isFallback
  · exact (walk.findBuddies_perm _).mem_iff.mp listed
  · cases isManaged
  · cases isLegacy
  · exact walk.findBuddy_mem isFallback

theorem extends_addBuddy (list : BuddyList) (account : AccountId) (name : String) :
    list.Extends (list.addBuddy purple account name).1 :=
  (purple.extends_addBuddy list account name).trans (extends_setSynced _ _)

theorem migrateBuddy_cases (migrating : Buddy) (member : buddy ∈ list.buddies.nodes) :
    (list.migrateBuddy purple walk migrating).1.Keeps buddy ∨
      buddy.contact = migrating.contact ∧ list.group migrating = legacyBuddyGroup ∧
        list.HasTwin purple (list.migrateBuddy purple walk migrating).1 buddy := by
  unfold migrateBuddy
  split
  next => exact Or.inl ((extends_refl list).keeps buddy member)
  next managed =>
    have inLegacy : list.group migrating = legacyBuddyGroup := by
      by_contra other
      exact managed (by simp [other])
    rcases purple.addContact_cases walk list migrating.contact buddy member with kept | ⟨sameContact, twin⟩
    · exact Or.inl kept
    · exact Or.inr ⟨sameContact, inLegacy, twin⟩

/-- The buddy was destroyed when its contact, which holds a buddy of this name, was moved out
of the legacy group, where another of its own name stood already. -/
structure Merged (names : BuddyListNames) (list next : BuddyList) (account : AccountId) (name : String)
    (buddy : Buddy) : Prop where
  wasLegacy : list.group buddy = legacyBuddyGroup
  mate : ∃ mate ∈ list.buddies.nodes, mate.contact = buddy.contact ∧
    isNamed names account name mate = true
  twin : list.HasTwin names next buddy

theorem Merged.extend {account : AccountId} {name : String}
    (merged : Merged purple list middle account name buddy) (grows : middle.Extends next) :
    Merged purple list next account name buddy :=
  ⟨merged.wasLegacy, merged.mate, merged.twin.extend grows⟩

theorem adoptLegacyBuddy_cases (account : AccountId) (name : String)
    (member : buddy ∈ list.buddies.nodes) :
    (list.adoptLegacyBuddy purple walk account name).1.Keeps buddy ∨
      Merged purple list (list.adoptLegacyBuddy purple walk account name).1 account name
        buddy := by
  unfold adoptLegacyBuddy
  split
  next => exact Or.inl ((extends_refl list).keeps buddy member)
  next found isFound =>
    have ⟨inList, named⟩ := findBuddy_spec isFound
    split
    next =>
      rcases (extends_setSynced list found.id).keeps buddy member with ⟨marked, present, same⟩
      rcases migrateBuddy_cases { found with synced := true } present with
        kept | ⟨sameContact, wasLegacy, twin⟩
      · exact Or.inl (kept.congr same)
      · have atContact : buddy.contact = found.contact := same.contact.symm.trans sameContact
        have inLegacy : list.group buddy = legacyBuddyGroup :=
          (congrArg list.contactGroup atContact).trans wasLegacy
        exact Or.inr ⟨inLegacy, ⟨found, inList, atContact.symm, named⟩,
          twin.of_updateBuddy.congr same⟩
    next =>
      rcases migrateBuddy_cases found member with kept | ⟨sameContact, wasLegacy, twin⟩
      · exact Or.inl kept
      · have inLegacy : list.group buddy = legacyBuddyGroup :=
          (congrArg list.contactGroup sameContact).trans wasLegacy
        exact Or.inr ⟨inLegacy, ⟨found, inList, sameContact.symm, named⟩, twin⟩

@[simp] theorem chats_migrateBuddy (list : BuddyList) (migrating : Buddy) :
    (list.migrateBuddy purple walk migrating).1.chats = list.chats := by
  unfold migrateBuddy
  split
  · rfl
  · exact purple.chats_addContact walk list migrating.contact

@[simp] theorem chats_adoptLegacyBuddy (list : BuddyList) (account : AccountId) (name : String) :
    (list.adoptLegacyBuddy purple walk account name).1.chats = list.chats := by
  unfold adoptLegacyBuddy
  split
  · rfl
  · split
    · exact chats_migrateBuddy _ _
    · exact chats_migrateBuddy _ _

end Library

/-! ## A library that meets this -/

section Merging

variable (names : BuddyListNames) (walk : Walk)

def insertBuddy (list : BuddyList) (account : AccountId) (name : String) : BuddyList where
  buddies := list.buddies.add
    (fun id => { id, account, name, contact := list.nextContact })
    (fun _ => rfl)
  chats := list.chats
  contactGroup := Function.update list.contactGroup list.nextContact names.defaultBuddyGroup
  nextContact := list.nextContact + 1
  known := by
    intro buddy member
    rcases List.mem_append.mp member with before | new
    · exact Nat.lt_succ_of_lt (list.known buddy before)
    · rw [List.mem_singleton.mp new]
      exact Nat.lt_succ_self _

/-- The buddies of a contact that stay when it is moved: one is destroyed for which
the new group has a buddy of the same account and name. -/
def stayingBuddies (present : List Buddy) : List Buddy → List Buddy
  | [] => []
  | buddy :: later =>
      if present.any (isNamed names buddy.account buddy.name) then
        stayingBuddies present later
      else buddy :: stayingBuddies (buddy :: present) later

def moveContact (list : BuddyList) (contact : NodeId) : BuddyList :=
  if list.contactGroup contact = names.defaultBuddyGroup then list
  else
    let present := list.buddies.nodes.filter (list.group · == names.defaultBuddyGroup)
    let staying := stayingBuddies names present
      (walk.findBuddies (list.buddies.nodes.filter (·.contact == contact)))
    let kept := list.filterBuddies fun buddy => buddy.contact != contact || staying.contains buddy
    { kept with
      contactGroup := Function.update list.contactGroup contact names.defaultBuddyGroup }

variable {names walk} {list : BuddyList} {buddy : Buddy}

theorem extends_insertBuddy (list : BuddyList) (account : AccountId) (name : String) :
    list.Extends (list.insertBuddy names account name) where
  keeps := fun buddy member => ⟨buddy, List.mem_append_left _ member, rfl, rfl, rfl, rfl⟩
  places := by
    intro buddy member
    exact Function.update_of_ne (Nat.ne_of_lt (list.known buddy member)) _ _

theorem twin_of_not_staying (present members : List Buddy) (member : buddy ∈ members)
    (gone : buddy ∉ stayingBuddies names present members) :
    ∃ twin ∈ present ++ stayingBuddies names present members,
      isNamed names buddy.account buddy.name twin = true := by
  induction members generalizing present with
  | nil => cases member
  | cons first later induction =>
      unfold stayingBuddies at gone ⊢
      split at gone
      next duplicate =>
        rw [if_pos duplicate]
        rcases List.mem_cons.mp member with rfl | inLater
        · rcases List.any_eq_true.mp duplicate with ⟨twin, inPresent, named⟩
          exact ⟨twin, List.mem_append_left _ inPresent, named⟩
        · exact induction present inLater gone
      next unique =>
        rw [if_neg unique]
        have notFirst : buddy ≠ first := fun same => gone (same ▸ List.mem_cons_self)
        have inLater := (List.mem_cons.mp member).resolve_left notFirst
        rcases induction (first :: present) inLater
          (fun stays => gone (List.mem_cons_of_mem _ stays)) with ⟨twin, found, named⟩
        have moved : twin ∈ present ++ first ::
            stayingBuddies names (first :: present) later := by
          simpa [or_left_comm, or_assoc] using found
        exact ⟨twin, moved, named⟩

theorem mem_of_mem_staying {present members : List Buddy}
    (stays : buddy ∈ stayingBuddies names present members) : buddy ∈ members := by
  induction members generalizing present with
  | nil => cases stays
  | cons first later induction =>
      unfold stayingBuddies at stays
      split at stays
      · exact List.mem_cons_of_mem _ (induction stays)
      · rcases List.mem_cons.mp stays with rfl | inLater
        · exact List.mem_cons_self
        · exact List.mem_cons_of_mem _ (induction inLater)

/-- Moving a contact keeps every other buddy. One of its own that is destroyed has a twin
that is not. -/
theorem moveContact_cases (contact : NodeId) (member : buddy ∈ list.buddies.nodes) :
    (list.moveContact names walk contact).Keeps buddy ∨
      buddy.contact = contact ∧
        list.HasTwin names (list.moveContact names walk contact) buddy := by
  unfold moveContact
  split
  next => exact Or.inl ⟨buddy, member, rfl, rfl, rfl, rfl⟩
  next elsewhere =>
    generalize presentEq :
      list.buddies.nodes.filter (list.group · == names.defaultBuddyGroup) = present
    generalize membersEq :
      walk.findBuddies (list.buddies.nodes.filter (·.contact == contact)) = members
    have mem_members : ∀ other, other ∈ members ↔
        other ∈ list.buddies.nodes ∧ other.contact = contact := by
      intro other
      rw [← membersEq, (walk.findBuddies_perm _).mem_iff]
      simp
    by_cases stays : buddy.contact ≠ contact ∨ buddy ∈ stayingBuddies names present members
    · refine Or.inl ⟨buddy, List.mem_filter.mpr ⟨member, ?_⟩, rfl, rfl, rfl, rfl⟩
      simpa using stays
    · have ⟨inContact, gone⟩ := not_or.mp stays
      have inContact := not_not.mp inContact
      rcases twin_of_not_staying present members ((mem_members buddy).mpr ⟨member, inContact⟩)
        gone with ⟨twin, found, named⟩
      refine Or.inr ⟨inContact, twin, ?_⟩
      rcases List.mem_append.mp found with inPresent | inStaying
      · rw [← presentEq] at inPresent
        have ⟨inList, place⟩ := List.mem_filter.mp inPresent
        have place : list.contactGroup twin.contact = names.defaultBuddyGroup := by
          simpa [group] using place
        have otherContact : twin.contact ≠ contact := fun same => elsewhere (same ▸ place)
        refine ⟨inList, ?_, named, ⟨twin, ?_, rfl, rfl, rfl, rfl⟩, ?_⟩
        · intro sameId
          have same := Nodes.eq_of_id inList member sameId
          exact otherContact (same ▸ inContact)
        · exact List.mem_filter.mpr ⟨inList, by simp [otherContact]⟩
        · exact (Function.update_of_ne otherContact _ _).trans place
      · have ⟨inList, sameContact⟩ := (mem_members twin).mp (mem_of_mem_staying inStaying)
        refine ⟨inList, ?_, named, ⟨twin, ?_, rfl, rfl, rfl, rfl⟩, ?_⟩
        · intro sameId
          have same := Nodes.eq_of_id inList member sameId
          exact gone (same ▸ inStaying)
        · exact List.mem_filter.mpr ⟨inList, by simp [inStaying]⟩
        · simp [group, sameContact]

end Merging

end BuddyList

/-- A library that gives a new buddy a contact of its own, and merges duplicates as the adapter's
tests expect it. -/
def BuddyListNames.merging (names : BuddyListNames) : BuddyListLibrary where
  toBuddyListNames := names
  addBuddy := fun list account name =>
    (list.insertBuddy names account name, list.buddies.next)
  addContact := fun walk list contact => list.moveContact names walk contact
  extends_addBuddy := fun list account name => list.extends_insertBuddy account name
  chats_addBuddy := fun _ _ _ => rfl
  addContact_cases := fun _ _ contact _ member => BuddyList.moveContact_cases contact member
  chats_addContact := fun walk list contact => by
    unfold BuddyList.moveContact
    split <;> rfl

end SignalPurple
