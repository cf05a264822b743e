import SignalPurple.Core.GroupOperations.Exclusion
import SignalPurple.Core.GroupSnapshot

/-! # Looking groups up

The index of identifiers is filled by snapshots and by lookups, at any time and from reads of
the store that may be long past, and only a leave removes an entry. A lookup that finds an
entry reads the store once more, so that it answers as a scan of all groups would.
-/

namespace SignalPurple

/-- The reads of one moment describe these contents of the store. -/
structure GroupReads.Describe (reads : GroupReads) (groups : List (GroupKey × Group)) : Prop where
  all : reads.groups = .ok groups
  one : ∀ key, reads.group key = .ok ((groups.find? (·.1 == key)).map (·.2))

/-- `emit_group_snapshot` calls that run, and the index they share with the lookups. -/
structure GroupIndexRun where
  cache : MetadataCache := {}
  emissions : List Emission := []

inductive GroupIndexLabel where
  /-- `emit_group_snapshot` is called. -/
  | snapshot (authoritative : Bool)
  /-- One of the calls goes on. -/
  | emission (index : Nat) (departed : DepartedGroups) (label : EmissionLabel)
  | resolve (identifier : String) (departed : DepartedGroups) (reads : GroupReads)
  | resolveForLeave (identifier : String) (departed : DepartedGroups) (reads : GroupReads)
  /-- A leave of the group was accepted. -/
  | left (identifier : String)

namespace GroupIndexRun

variable (account : Account)

def looked (run : GroupIndexRun) (lookup : GroupLookup × MetadataCache) :
    GroupIndexRun × List GroupLookup :=
  ({ run with cache := lookup.2 }, [lookup.1])

def step (run : GroupIndexRun) : GroupIndexLabel → Option (GroupIndexRun × List GroupLookup)
  | .snapshot authoritative =>
      some ({ run with emissions := run.emissions ++ [.reading authoritative] }, [])
  | .emission index departed label =>
      match run.emissions[index]? with
      | none => none
      | some emission =>
          (emission.step account departed label).map fun reached =>
            ({ cache := run.cache.indexEffects reached.2
               emissions := run.emissions.set index reached.1 }, [])
  | .resolve identifier departed reads =>
      some (run.looked (resolveActiveGroup account reads identifier departed run.cache))
  | .resolveForLeave identifier departed reads =>
      some (run.looked (resolveActiveGroupForLeave account reads identifier departed run.cache))
  | .left identifier => some ({ run with cache := run.cache.removeGroupIndex identifier }, [])

def machine : Machine GroupIndexRun GroupIndexLabel GroupLookup where
  initial := {}
  step := step account

end GroupIndexRun

/-! ## Every entry names its own group -/

variable {account : Account} {cache : MetadataCache}

theorem Emission.indexed_of_step {departed : DepartedGroups} {emission next : Emission}
    {label : EmissionLabel} {effects : List EmissionEffect}
    (stepped : emission.step account departed label = some (next, effects)) :
    ∀ identifier key, .indexed identifier key ∈ effects →
      account.groupIdentifier key = identifier := by
  intro identifier key member
  cases label with
  | synchronized result =>
      simp only [step] at stepped
      split at stepped <;> cases stepped <;> simp at member
  | queried result =>
      simp only [step] at stepped
      split at stepped <;> cases stepped
      simp at member
  | groupsRead =>
      simp only [step] at stepped
      split at stepped <;> cases stepped <;> simp at member
  | proceed avatar =>
      simp only [step, proceed] at stepped
      split at stepped
      next record records groups =>
        cases stepped
        simp at member
      next listed group groups =>
        rcases Machine.reached_of_some stepped with ⟨rfl, rfl⟩
        simp only [emitGroup] at member
        split at member
        · simp at member
        · have same : identifier = account.groupIdentifier listed ∧ key = listed := by
            simpa using member
          rw [same.1, same.2]
      next =>
        cases stepped
        simp at member
      all_goals cases stepped

theorem MetadataCache.Sound.indexEffects (sound : cache.Sound account)
    {effects : List EmissionEffect}
    (indexed : ∀ identifier key, .indexed identifier key ∈ effects →
      account.groupIdentifier key = identifier) :
    (cache.indexEffects effects).Sound account := by
  induction effects generalizing cache with
  | nil => exact sound
  | cons effect effects induction =>
      have later : ∀ identifier key, .indexed identifier key ∈ effects →
          account.groupIdentifier key = identifier :=
        fun identifier key member => indexed identifier key (List.mem_cons_of_mem _ member)
      cases effect with
      | queried | emitted => exact induction sound later
      | indexed identifier key =>
          exact induction (sound.indexGroup (indexed identifier key List.mem_cons_self)) later

theorem GroupIndexRun.sound_of_step {run next : GroupIndexRun} {label : GroupIndexLabel}
    {entries : List GroupLookup} (sound : run.cache.Sound account)
    (stepped : run.step account label = some (next, entries)) : next.cache.Sound account := by
  cases label with
  | snapshot authoritative =>
      cases stepped
      exact sound
  | emission index departed label =>
      simp only [step] at stepped
      split at stepped
      · cases stepped
      · rcases Option.map_eq_some_iff.mp stepped with ⟨reached, moved, same⟩
        cases same
        exact sound.indexEffects (Emission.indexed_of_step moved)
  | resolve identifier departed reads =>
      cases stepped
      exact (lookupSound_resolveActiveGroup sound identifier departed).1
  | resolveForLeave identifier departed reads =>
      cases stepped
      exact (lookupSound_resolveActiveGroupForLeave sound identifier departed).1
  | left identifier =>
      cases stepped
      exact sound.removeGroupIndex identifier

/-! ## A lookup answers as the scan does -/

section Scan

variable {reads : GroupReads} {groups : List (GroupKey × Group)}

theorem scanActiveGroups_eq (described : reads.Describe groups) (identifier : String)
    (cache : MetadataCache) :
    (scanActiveGroups account reads identifier cache).1 =
      .ok (groups.find? (isActiveGroup account identifier)) := by
  simp only [scanActiveGroups, described.all]
  cases groups.find? (isActiveGroup account identifier) with
  | none => rfl
  | some entry => rfl

theorem find?_isActiveGroup (injective : Function.Injective account.groupIdentifier)
    {key : GroupKey} {group : Group} (found : groups.find? (·.1 == key) = some (key, group))
    (active : groupContainsLocalAci group account.localAci = true) :
    groups.find? (isActiveGroup account (account.groupIdentifier key)) = some (key, group) := by
  rw [List.find?_eq_some_iff_append] at found ⊢
  rcases found with ⟨_, before, after, rfl, others⟩
  refine ⟨by simp [isActiveGroup, active], before, after, rfl, ?_⟩
  intro entry member
  have other : entry.1 ≠ key := by simpa using others entry member
  have differs : account.groupIdentifier entry.1 ≠ account.groupIdentifier key :=
    fun same => other (injective same)
  simp [isActiveGroup, differs]

theorem resolveActiveGroupInStore_eq (injective : Function.Injective account.groupIdentifier)
    (sound : cache.Sound account) (described : reads.Describe groups) (identifier : String) :
    (resolveActiveGroupInStore account reads identifier cache).1 =
      .ok (groups.find? (isActiveGroup account identifier)) := by
  unfold resolveActiveGroupInStore
  split
  next => exact scanActiveGroups_eq described identifier cache
  next key indexed =>
    have named := sound identifier key indexed
    rw [GroupReads.activeGroup, described.one]
    cases found : groups.find? (·.1 == key) with
    | none => exact scanActiveGroups_eq described identifier cache
    | some entry =>
        rcases entry with ⟨listed, group⟩
        obtain rfl : listed = key := by simpa using List.find?_some found
        cases active : groupContainsLocalAci group account.localAci with
        | false =>
            simp only [Option.map_some, Option.filter_some, active]
            exact scanActiveGroups_eq described identifier cache
        | true =>
            simp only [Option.map_some, Option.filter_some, active]
            rw [← named, find?_isActiveGroup injective found active]
            rfl

end Scan

/-- A store that holds these groups. -/
def GroupReads.ofGroups (groups : List (GroupKey × Group)) : GroupReads where
  group := fun key => .ok ((groups.find? (·.1 == key)).map (·.2))
  groups := .ok groups

namespace GroupIndexRun

variable {labels : List GroupIndexLabel} {run : GroupIndexRun} {history : List GroupLookup}

theorem sound_of_run (runs : (machine account).run labels = some (run, history)) :
    run.cache.Sound account :=
  @Machine.run_invariant _ _ _ (machine account) (fun run _ => run.cache.Sound account)
    (MetadataCache.sound_empty account)
    (fun _ _ _ _ _ sound stepped => sound_of_step sound stepped) labels run history runs

/-- Whatever was indexed, and whatever became of the store since, a lookup answers as it would
with an empty index: with the first group of the store that is the user's and has this
identifier. -/
theorem lookup_eq_scan_of_run (injective : Function.Injective account.groupIdentifier)
    (runs : (machine account).run labels = some (run, history)) :
    (∀ identifier reads groups, GroupReads.Describe reads groups →
      (resolveActiveGroupInStore account reads identifier run.cache).1 =
          (resolveActiveGroupInStore account reads identifier {}).1 ∧
        (resolveActiveGroupInStore account reads identifier run.cache).1 =
          .ok (groups.find? (isActiveGroup account identifier))) ∧
    ∀ identifier key, run.cache.groupKeyForIdentifier identifier = some key →
      account.groupIdentifier key = identifier := by
  have sound := sound_of_run runs
  refine ⟨?_, sound⟩
  intro identifier reads groups described
  have found := resolveActiveGroupInStore_eq injective sound described identifier
  refine ⟨?_, found⟩
  rw [found, resolveActiveGroupInStore_eq injective (MetadataCache.sound_empty account) described]

/-- An account whose identifiers spell the keys out. -/
def spellingAccount : Account where
  localAci := ⟨"me"⟩
  parseRecipient := fun _ => none
  groupIdentifier := fun key => String.ofList (key.bytes.map Char.ofUInt8)

theorem injective_spellingAccount : Function.Injective spellingAccount.groupIdentifier := by
  have letters : Function.Injective Char.ofUInt8 := by
    intro one other same
    exact UInt8.toUInt32_inj.mp (congrArg Char.val same)
  intro one other same
  have bytes := List.map_injective_iff.mpr letters (String.ofList_injective same)
  cases one
  cases other
  cases bytes
  rfl

def indexSevens : List GroupIndexLabel :=
  [.snapshot true,
    .emission 0 {} (.queried (.ok
      [(.sevens, { title := "Sevens", revision := 1, members := [⟨⟨"me"⟩, false⟩] })])),
    .emission 0 {} .groupsRead, .emission 0 {} (.proceed none)]

def renamedSevens : GroupKey × Group :=
  (.sevens, { title := "Eights", revision := 2, members := [⟨"me"⟩] })

/-- The group has another title by the time it is looked up, or is gone from the store. -/
theorem lookup_eq_scan_of_stale_entry :
    ∃ run history, (machine spellingAccount).run indexSevens = some (run, history) ∧
      run.cache.groupKeyForIdentifier (spellingAccount.groupIdentifier .sevens) = some .sevens ∧
      (resolveActiveGroupInStore spellingAccount (.ofGroups [renamedSevens])
        (spellingAccount.groupIdentifier .sevens) run.cache).1 = .ok (some renamedSevens) ∧
      (resolveActiveGroupInStore spellingAccount (.ofGroups [])
        (spellingAccount.groupIdentifier .sevens) run.cache).1 = .ok none := by
  have ⟨run, history, runs, indexed⟩ : ∃ run history,
      (machine spellingAccount).run indexSevens = some (run, history) ∧
      run.cache.groupKeyForIdentifier (spellingAccount.groupIdentifier .sevens) = some .sevens :=
    ⟨_, _, rfl, rfl⟩
  have found : [renamedSevens].find?
      (isActiveGroup spellingAccount (spellingAccount.groupIdentifier .sevens)) =
        some renamedSevens := by
    simp [isActiveGroup, renamedSevens, groupContainsLocalAci, spellingAccount]
  have lookup := (lookup_eq_scan_of_run injective_spellingAccount runs).1
    (spellingAccount.groupIdentifier .sevens)
  refine ⟨run, history, runs, indexed, ?_, ?_⟩
  · rw [(lookup _ [renamedSevens] ⟨rfl, fun _ => rfl⟩).2, found]
  · exact (lookup _ [] ⟨rfl, fun _ => rfl⟩).2

end GroupIndexRun

/-- The sends, leaves and uploads of a session look their groups up as by a scan. -/
theorem GroupOperations.lookup_eq_scan {labels : List GroupOperationsLabel}
    {state : GroupOperations} {history : List GroupOperationsEntry} {reads : GroupReads}
    {groups : List (GroupKey × Group)}
    (injective : Function.Injective account.groupIdentifier)
    (runs : (GroupOperations.machine account).run labels = some (state, history))
    (described : reads.Describe groups) (identifier : String) :
    (resolveActiveGroupInStore account reads identifier state.outbox.cache).1 =
      .ok (groups.find? (isActiveGroup account identifier)) :=
  resolveActiveGroupInStore_eq injective (exclusive_of_run runs).indexed described identifier

end SignalPurple
