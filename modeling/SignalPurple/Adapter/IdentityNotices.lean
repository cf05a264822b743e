import Mathlib.Data.List.Induction
import SignalPurple.Adapter.Dispatch
import SignalPurple.Foundation.History

/-! # Notices of changed identities

The core reports each change of a contact's identity, and whether the contact was verified
before. Messages to a verified contact are blocked until the user accepts the change, and
the user can do so only while the adapter keeps the change as pending. The adapter looks at
the first notice of a contact after an acceptance and drops those that follow.
-/

namespace SignalPurple

inductive IdentityNotice where
  | change (peer : Option String) (value : Int)
  | accepted (peer : Option String)
  deriving DecidableEq

namespace IdentityNotice

def event : IdentityNotice → SignalEvent
  | .change peerId value =>
      { abiVersion := SignalPurple.abiVersion, structSize := signalEventSize
        kind := EventKind.identityChange.code, peerId, value }
  | .accepted peerId =>
      { abiVersion := SignalPurple.abiVersion, structSize := signalEventSize
        kind := EventKind.identityAccepted.code, peerId }

variable (handlers : Handlers)

/-- Dispatch the notices one after the other; libpurple may answer differently each time. -/
def dispatchAll (state : AdapterState) (notices : List (Purple × IdentityNotice)) :
    AdapterState :=
  notices.foldl
    (fun state notice => (dispatchEvent handlers notice.1 state notice.2.event).state) state

def withoutNotices (state : AdapterState) : AdapterState :=
  { state with identityChangesSeen := ∅, pendingIdentityChanges := ∅ }

/-- A change that blocks the contact was reported after its last acceptance. -/
def Blocked (notices : List IdentityNotice) (peer : String) : Prop :=
  ∃ before value after, notices = before ++ .change (some peer) value :: after ∧ value ≠ 0 ∧
    .accepted (some peer) ∉ after

def nextChanges (peer : String) (changes : List Int) : IdentityNotice → List Int
  | .change other value => if other = some peer then changes ++ [value] else changes
  | .accepted other => if other = some peer then [] else changes

/-- The changes of a contact since its last acceptance, as they were reported. -/
def changesSince (peer : String) (notices : List IdentityNotice) : List Int :=
  notices.foldl (nextChanges peer) []

/-- If any of the changes since the last acceptance blocks the contact, then the first does. -/
def FirstChangeBlocks (notices : List IdentityNotice) (peer : String) : Prop :=
  (∃ value ∈ changesSince peer notices, value ≠ 0) →
    peer ≠ "" ∧ ∃ value, (changesSince peer notices).head? = some value ∧ value ≠ 0

variable {handlers} {state : AdapterState} {peer : String}

theorem changesSince_concat (notices : List IdentityNotice) (notice : IdentityNotice) :
    changesSince peer (notices ++ [notice]) =
      nextChanges peer (changesSince peer notices) notice := by
  simp [changesSince]

theorem dispatchAll_concat (notices : List (Purple × IdentityNotice))
    (notice : Purple × IdentityNotice) :
    dispatchAll handlers state (notices ++ [notice]) =
      (dispatchEvent handlers notice.1 (dispatchAll handlers state notices)
        notice.2.event).state := by
  simp [dispatchAll]

theorem blocked_iff_since (notices : List IdentityNotice) :
    Blocked notices peer ↔
      History.Since (fun notice => ∃ value, notice = .change (some peer) value ∧ value ≠ 0)
        (· = .accepted (some peer)) notices := by
  constructor
  · rintro ⟨before, value, after, split, blocks, unaccepted⟩
    refine ⟨before, _, after, split, ⟨value, rfl, blocks⟩, ?_⟩
    rintro later member rfl
    exact unaccepted member
  · rintro ⟨before, _, after, split, ⟨value, rfl, blocks⟩, unaccepted⟩
    exact ⟨before, value, after, split, blocks, fun member => unaccepted _ member rfl⟩

theorem blocked_concat (notices : List IdentityNotice) (notice : IdentityNotice) :
    Blocked (notices ++ [notice]) peer ↔
      (∃ value, notice = .change (some peer) value ∧ value ≠ 0) ∨
        Blocked notices peer ∧ notice ≠ .accepted (some peer) := by
  rw [blocked_iff_since, blocked_iff_since, History.since_concat]

theorem blocked_iff (notices : List IdentityNotice) :
    Blocked notices peer ↔ ∃ value ∈ changesSince peer notices, value ≠ 0 := by
  induction notices using List.reverseRecOn with
  | nil => simp [Blocked, changesSince]
  | append_singleton earlier notice induction =>
      rw [blocked_concat, changesSince_concat, induction]
      cases notice with
      | change other value =>
          by_cases isPeer : other = some peer
          · simp only [nextChanges, isPeer, if_true, List.mem_append, List.mem_singleton,
              change.injEq, true_and]
            constructor
            · rintro (⟨_, rfl, blocks⟩ | ⟨⟨found, member, blocks⟩, _⟩)
              · exact ⟨value, Or.inr rfl, blocks⟩
              · exact ⟨found, Or.inl member, blocks⟩
            · rintro ⟨found, member | rfl, blocks⟩
              · exact Or.inr ⟨⟨found, member, blocks⟩, by simp⟩
              · exact Or.inl ⟨found, rfl, blocks⟩
          · simp [nextChanges, isPeer]
      | accepted other =>
          by_cases isPeer : other = some peer
          · simp [nextChanges, isPeer]
          · simp [nextChanges, isPeer]

/-- What the adapter keeps of a contact: whether it has seen a change since the last
acceptance, and whether the first one blocks. -/
structure Keeps (state : AdapterState) (peer : String) (changes : List Int) : Prop where
  seen : peer ∈ state.identityChangesSeen ↔ peer ≠ "" ∧ changes ≠ []
  pending : peer ∈ state.pendingIdentityChanges ↔
    peer ≠ "" ∧ ∃ value, changes.head? = some value ∧ value ≠ 0

theorem mem_seen_handleIdentityChange (purple : Purple) (event : SignalEvent) :
    peer ∈ (handleIdentityChange purple state event).state.identityChangesSeen ↔
      peer ∈ state.identityChangesSeen ∨ event.peerId = some peer ∧ peer ≠ "" := by
  unfold handleIdentityChange
  rcases isName : event.peerId with _ | name
  · simp [isBlank]
  · dsimp only [Option.getD_some]
    split
    next dropped =>
      have dropped : name = "" ∨ name ∈ state.identityChangesSeen := by
        simpa [isBlank] using dropped
      constructor
      · exact Or.inl
      · rintro (seen | ⟨same, named⟩)
        · exact seen
        · cases same
          exact dropped.resolve_left named
    next kept =>
      have named : name ≠ "" := fun nameless => kept (by simp [isBlank, nameless])
      split <;> grind

theorem mem_pending_handleIdentityChange (purple : Purple) (event : SignalEvent) :
    peer ∈ (handleIdentityChange purple state event).state.pendingIdentityChanges ↔
      peer ∈ state.pendingIdentityChanges ∨
        event.peerId = some peer ∧ peer ≠ "" ∧ peer ∉ state.identityChangesSeen ∧
          event.value ≠ 0 := by
  unfold handleIdentityChange
  rcases isName : event.peerId with _ | name
  · simp [isBlank]
  · dsimp only [Option.getD_some]
    split
    next dropped =>
      have dropped : name = "" ∨ name ∈ state.identityChangesSeen := by
        simpa [isBlank] using dropped
      grind
    next kept =>
      have ⟨named, unseen⟩ : name ≠ "" ∧ name ∉ state.identityChangesSeen := by
        simpa [isBlank] using kept
      split <;> grind

theorem Keeps.change {changes : List Int} (keeps : Keeps state peer changes) (purple : Purple)
    (other : Option String) (value : Int) :
    Keeps (dispatchEvent handlers purple state (change other value).event).state peer
      (nextChanges peer changes (.change other value)) where
  seen := by
    refine (mem_seen_handleIdentityChange purple (IdentityNotice.change other value).event).trans ?_
    rw [keeps.seen, nextChanges]
    by_cases isPeer : other = some peer
    · have longer : changes ++ [value] ≠ [] := by simp
      simp only [event, isPeer, if_true]
      tauto
    · simp [event, isPeer]
  pending := by
    refine (mem_pending_handleIdentityChange purple (IdentityNotice.change other value).event).trans ?_
    rw [keeps.pending, keeps.seen, nextChanges]
    by_cases isPeer : other = some peer
    · rcases changes with _ | ⟨first, later⟩
      · simp [event, isPeer]
      · simp only [event, isPeer, if_true, List.cons_append, List.head?_cons]
        grind
    · simp [event, isPeer]

theorem Keeps.accepted {changes : List Int} (keeps : Keeps state peer changes) (purple : Purple)
    (other : Option String) :
    Keeps (dispatchEvent handlers purple state (accepted other).event).state peer
      (nextChanges peer changes (.accepted other)) := by
  change Keeps (handleIdentityAccepted state (IdentityNotice.accepted other).event).state peer _
  simp only [handleIdentityAccepted, event, nextChanges]
  cases other with
  | none => exact keeps
  | some name =>
      by_cases isPeer : name = peer
      · constructor <;> simp [isPeer]
      · have different : peer ≠ name := fun same => isPeer same.symm
        constructor
        · simp [isPeer, different, keeps.seen]
        · simp [isPeer, different, keeps.pending]

theorem keeps_dispatchAll (notices : List (Purple × IdentityNotice)) :
    Keeps (dispatchAll handlers (withoutNotices state) notices) peer
      (changesSince peer (notices.map Prod.snd)) := by
  induction notices using List.reverseRecOn with
  | nil => constructor <;> simp [dispatchAll, withoutNotices, changesSince]
  | append_singleton earlier notice induction =>
      rw [dispatchAll_concat, List.map_append, List.map_singleton, changesSince_concat]
      rcases notice with ⟨purple, _ | _⟩
      · exact induction.change purple _ _
      · exact induction.accepted purple _

/-- A blocked contact can be accepted just when the first change since its last acceptance
is one that blocks. -/
theorem pending_iff_blocked_iff (handlers : Handlers) (state : AdapterState)
    (notices : List (Purple × IdentityNotice)) (peer : String) :
    (peer ∈ (dispatchAll handlers (withoutNotices state) notices).pendingIdentityChanges ↔
        Blocked (notices.map Prod.snd) peer) ↔
      FirstChangeBlocks (notices.map Prod.snd) peer := by
  rw [(keeps_dispatchAll notices).pending, blocked_iff, FirstChangeBlocks]
  constructor
  · exact fun same blocks => same.mpr blocks
  · intro firstBlocks
    constructor
    · rintro ⟨_, value, isFirst, blocks⟩
      exact ⟨value, List.mem_of_head? isFirst, blocks⟩
    · exact firstBlocks

/-- The contact is verified between two changes: it is blocked and cannot be accepted. -/
theorem verified_after_first_notice :
    Blocked [.change (some "p") 0, .change (some "p") 1] "p" ∧
      "p" ∉ (dispatchAll (fun _ state _ => state) {}
        [(plainPurple, .change (some "p") 0), (plainPurple, .change (some "p") 1)]
          ).pendingIdentityChanges := by
  constructor
  · exact ⟨[.change (some "p") 0], 1, [], rfl, by decide, by simp⟩
  · decide

end IdentityNotice

end SignalPurple
