import Mathlib.Data.List.AList
import SignalPurple.Core.Content
import SignalPurple.Core.Projection
import SignalPurple.Core.Store

/-! # Groups of the account

What a session knows about the account's groups: the records of the store, the groups
the user is leaving or has left, and the index from the identifier the adapter uses for
a group to its master key.
-/

namespace SignalPurple

structure Group where
  title : String
  revision : UInt32
  members : List Aci
  deriving DecidableEq

/-- What is fixed for a session: who the account is, and the library functions that
read a recipient and hash a master key. -/
structure Account where
  localAci : Aci
  parseRecipient : String → Option ServiceId
  groupIdentifier : GroupKey → String

def groupContainsLocalAci (group : Group) (localAci : Aci) : Bool :=
  group.members.any (· == localAci)

/-! ## Groups being left -/

inductive GroupDepartureState where
  | active
  | leaving
  | departed
  deriving DecidableEq

def departureProjectionDisposition : GroupDepartureState → Option ProjectionDisposition
  | .active => none
  | .leaving => some .retry
  | .departed => some .complete

structure DepartedGroups where
  leaving : Finset String := ∅
  departed : Finset String := ∅
  deriving DecidableEq

namespace DepartedGroups

def departureState (groups : DepartedGroups) (identifier : String) : GroupDepartureState :=
  if identifier ∈ groups.departed then .departed
  else if identifier ∈ groups.leaving then .leaving
  else .active

def contains (groups : DepartedGroups) (identifier : String) : Bool :=
  groups.departureState identifier != .active

def isDeparted (groups : DepartedGroups) (identifier : String) : Bool :=
  decide (identifier ∈ groups.departed)

def beginLeave (groups : DepartedGroups) (identifier : String) : DepartedGroups :=
  { groups with leaving := insert identifier groups.leaving }

def cancelLeave (groups : DepartedGroups) (identifier : String) : DepartedGroups :=
  { groups with leaving := groups.leaving.erase identifier }

def markDeparted (groups : DepartedGroups) (identifier : String) : DepartedGroups where
  leaving := groups.leaving.erase identifier
  departed := insert identifier groups.departed

theorem departureState_eq_active {groups : DepartedGroups} {identifier : String} :
    groups.departureState identifier = .active ↔
      identifier ∉ groups.departed ∧ identifier ∉ groups.leaving := by
  unfold departureState
  split
  · simp_all
  · split <;> simp_all

theorem departureState_eq_departed {groups : DepartedGroups} {identifier : String} :
    groups.departureState identifier = .departed ↔ identifier ∈ groups.departed := by
  unfold departureState
  split
  · simp_all
  · split <;> simp_all

end DepartedGroups

/-! ## The index of identifiers -/

/-- `MetadataCache` without the names of contacts. -/
structure MetadataCache where
  groupIndex : AList fun _ : String => GroupKey := ∅
  deriving DecidableEq

namespace MetadataCache

def groupKeyForIdentifier (cache : MetadataCache) (identifier : String) : Option GroupKey :=
  cache.groupIndex.lookup identifier

def indexGroup (cache : MetadataCache) (identifier : String) (masterKey : GroupKey) :
    MetadataCache where
  groupIndex := cache.groupIndex.insert identifier masterKey

def removeGroupIndex (cache : MetadataCache) (identifier : String) : MetadataCache where
  groupIndex := cache.groupIndex.erase identifier

end MetadataCache

/-! ## Reading the store -/

/-- What the store answers to reads of group records at one moment. -/
structure GroupReads where
  group : GroupKey → Except StoreError (Option Group)
  groups : Except StorageError (List (GroupKey × Group))

namespace GroupReads

def activeGroup (reads : GroupReads) (key : GroupKey) (localAci : Aci) :
    Except StorageError (Option Group) :=
  match reads.group key with
  | .ok group => .ok (group.filter (groupContainsLocalAci · localAci))
  | .error source => .error (.store "Could not read Signal group membership" source)

end GroupReads

abbrev GroupLookup := Except String (Option (GroupKey × Group))

section Resolution

variable (account : Account) (reads : GroupReads)

def isActiveGroup (identifier : String) (entry : GroupKey × Group) : Bool :=
  account.groupIdentifier entry.1 == identifier &&
    groupContainsLocalAci entry.2 account.localAci

/-- The scan over all groups, which indexes what it finds. -/
def scanActiveGroups (identifier : String) (cache : MetadataCache) :
    GroupLookup × MetadataCache :=
  match reads.groups with
  | .error error => (.error error.text, cache)
  | .ok groups =>
      match groups.find? (isActiveGroup account identifier) with
      | none => (.ok none, cache)
      | some (key, group) => (.ok (some (key, group)), cache.indexGroup identifier key)

/-- The index is asked first; an entry that is stale falls back to the scan. -/
def resolveActiveGroupInStore (identifier : String) (cache : MetadataCache) :
    GroupLookup × MetadataCache :=
  match cache.groupKeyForIdentifier identifier with
  | none => scanActiveGroups account reads identifier cache
  | some key =>
      match reads.activeGroup key account.localAci with
      | .error error => (.error error.text, cache)
      | .ok (some group) => (.ok (some (key, group)), cache)
      | .ok none => scanActiveGroups account reads identifier cache

def resolveActiveGroup (identifier : String) (departed : DepartedGroups)
    (cache : MetadataCache) : GroupLookup × MetadataCache :=
  if departed.contains identifier then (.ok none, cache)
  else resolveActiveGroupInStore account reads identifier cache

/-- A group whose leave has begun may still be left. -/
def resolveActiveGroupForLeave (identifier : String) (departed : DepartedGroups)
    (cache : MetadataCache) : GroupLookup × MetadataCache :=
  if departed.isDeparted identifier then (.ok none, cache)
  else resolveActiveGroupInStore account reads identifier cache

end Resolution

/-! ## The index is right

Whoever indexes a key does so under the identifier of that very key, so a lookup never
answers with the key of another group.
-/

namespace MetadataCache

def Sound (account : Account) (cache : MetadataCache) : Prop :=
  ∀ identifier key, cache.groupKeyForIdentifier identifier = some key →
    account.groupIdentifier key = identifier

variable {account : Account} {cache : MetadataCache}

theorem sound_empty (account : Account) : Sound account {} := by
  intro identifier key found
  simp [groupKeyForIdentifier] at found

theorem Sound.indexGroup (sound : cache.Sound account) {identifier : String} {key : GroupKey}
    (same : account.groupIdentifier key = identifier) :
    (cache.indexGroup identifier key).Sound account := by
  intro other found lookup
  by_cases isIdentifier : other = identifier
  · subst isIdentifier
    have : key = found := by simpa [groupKeyForIdentifier, MetadataCache.indexGroup] using lookup
    rw [← this, same]
  · apply sound
    simpa [groupKeyForIdentifier, MetadataCache.indexGroup, isIdentifier] using lookup

theorem Sound.removeGroupIndex (sound : cache.Sound account) (identifier : String) :
    (cache.removeGroupIndex identifier).Sound account := by
  intro other found lookup
  by_cases isIdentifier : other = identifier
  · subst isIdentifier
    simp [groupKeyForIdentifier, MetadataCache.removeGroupIndex] at lookup
  · apply sound
    simpa [groupKeyForIdentifier, MetadataCache.removeGroupIndex, isIdentifier] using lookup

end MetadataCache

section Lookups

variable {account : Account} {reads : GroupReads} {cache : MetadataCache}

/-- A lookup of `identifier` leaves the index right and finds no other group. -/
def LookupSound (account : Account) (identifier : String)
    (lookup : GroupLookup × MetadataCache) : Prop :=
  lookup.2.Sound account ∧
    ∀ key group, lookup.1 = .ok (some (key, group)) → account.groupIdentifier key = identifier

theorem lookupSound_of_none {result : GroupLookup} (sound : cache.Sound account)
    (identifier : String) (nothing : ∀ entry, result ≠ .ok (some entry)) :
    LookupSound account identifier (result, cache) :=
  ⟨sound, fun key group found => absurd found (nothing (key, group))⟩

theorem lookupSound_scanActiveGroups (sound : cache.Sound account) (identifier : String) :
    LookupSound account identifier (scanActiveGroups account reads identifier cache) := by
  unfold scanActiveGroups
  split
  · exact lookupSound_of_none sound identifier (by simp)
  · split
    next => exact lookupSound_of_none sound identifier (by simp)
    next key group found =>
      have same : account.groupIdentifier key = identifier := by
        have matched := List.find?_some found
        simp only [isActiveGroup, Bool.and_eq_true, beq_iff_eq] at matched
        exact matched.1
      refine ⟨sound.indexGroup same, ?_⟩
      intro other otherGroup isFound
      cases isFound
      exact same

theorem lookupSound_resolveActiveGroupInStore (sound : cache.Sound account)
    (identifier : String) :
    LookupSound account identifier
      (resolveActiveGroupInStore account reads identifier cache) := by
  unfold resolveActiveGroupInStore
  split
  next => exact lookupSound_scanActiveGroups sound identifier
  next key indexed =>
    split
    · exact lookupSound_of_none sound identifier (by simp)
    · refine ⟨sound, ?_⟩
      intro other group isFound
      cases isFound
      exact sound identifier key indexed
    · exact lookupSound_scanActiveGroups sound identifier

theorem lookupSound_resolveActiveGroup (sound : cache.Sound account) (identifier : String)
    (departed : DepartedGroups) :
    LookupSound account identifier
      (resolveActiveGroup account reads identifier departed cache) := by
  unfold resolveActiveGroup
  split
  · exact lookupSound_of_none sound identifier (by simp)
  · exact lookupSound_resolveActiveGroupInStore sound identifier

theorem lookupSound_resolveActiveGroupForLeave (sound : cache.Sound account)
    (identifier : String) (departed : DepartedGroups) :
    LookupSound account identifier
      (resolveActiveGroupForLeave account reads identifier departed cache) := by
  unfold resolveActiveGroupForLeave
  split
  · exact lookupSound_of_none sound identifier (by simp)
  · exact lookupSound_resolveActiveGroupInStore sound identifier

end Lookups

end SignalPurple
