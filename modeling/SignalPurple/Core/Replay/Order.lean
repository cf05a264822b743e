import SignalPurple.Core.Connection.Authority
import SignalPurple.Foundation.History

/-! # The order of the replay queue

Any sequence of operations on the queue. Contents of groups keep their order among
themselves, and so do the others; what waits for the groups is put behind all that is ready
when the groups become known.
-/

namespace SignalPurple

def Content.isOfGroup (content : Content) : Bool := contentHasGroupContext content.body

inductive ReplayLabel where
  | replace (messages : List Content) (groupsAuthoritative : Bool)
  | push (content : Content) (groupsAuthoritative : Bool)
  | activateGroups
  | popReady

inductive ReplayEntry where
  | replaced (messages : List Content) (groupsAuthoritative : Bool)
  | pushed (content : Content) (groupsAuthoritative : Bool)
  | activated
  | popped (content : Content)
  deriving DecidableEq

/-- A content that was inserted. It is cleared if it came under authority, or if
`activate_groups` was called since. -/
structure Arrival where
  content : Content
  cleared : Bool
  deriving DecidableEq

/-- What was seen of the queue since its contents were last replaced. -/
structure ReplayEpoch where
  /-- The number of contents that replaced the earlier ones. -/
  size : Nat := 0
  arrivals : List Arrival := []
  popped : List Content := []

namespace ReplayEpoch

def observe (epoch : ReplayEpoch) : ReplayEntry → ReplayEpoch
  | .replaced messages groupsAuthoritative =>
      { size := messages.length
        arrivals := messages.map fun content => { content, cleared := groupsAuthoritative } }
  | .pushed content groupsAuthoritative =>
      { epoch with arrivals := epoch.arrivals ++ [{ content, cleared := groupsAuthoritative }] }
  | .activated =>
      { epoch with
        arrivals := epoch.arrivals.map fun arrival => { arrival with cleared := true } }
  | .popped content => { epoch with popped := epoch.popped ++ [content] }

def ofHistory (history : List ReplayEntry) : ReplayEpoch := history.foldl observe {}

def inserted (epoch : ReplayEpoch) : List Content := epoch.arrivals.map (·.content)

def groupArrivals (epoch : ReplayEpoch) : List Arrival :=
  epoch.arrivals.filter (·.content.isOfGroup)

@[simp] theorem ofHistory_nil : ofHistory [] = {} := rfl

@[simp] theorem ofHistory_concat (history : List ReplayEntry) (entry : ReplayEntry) :
    ofHistory (history ++ [entry]) = (ofHistory history).observe entry := by
  simp [ofHistory]

section Observe

variable (epoch : ReplayEpoch) (messages : List Content) (content : Content)
  (groupsAuthoritative : Bool)

@[simp] theorem inserted_replaced :
    (epoch.observe (.replaced messages groupsAuthoritative)).inserted = messages := by
  simp [observe, inserted, Function.comp_def]

@[simp] theorem inserted_pushed :
    (epoch.observe (.pushed content groupsAuthoritative)).inserted =
      epoch.inserted ++ [content] := by
  simp [observe, inserted]

@[simp] theorem inserted_activated : (epoch.observe .activated).inserted = epoch.inserted := by
  simp [observe, inserted, Function.comp_def]

@[simp] theorem inserted_popped : (epoch.observe (.popped content)).inserted = epoch.inserted :=
  rfl

@[simp] theorem popped_replaced :
    (epoch.observe (.replaced messages groupsAuthoritative)).popped = [] := rfl

@[simp] theorem popped_pushed :
    (epoch.observe (.pushed content groupsAuthoritative)).popped = epoch.popped := rfl

@[simp] theorem popped_activated : (epoch.observe .activated).popped = epoch.popped := rfl

@[simp] theorem popped_popped :
    (epoch.observe (.popped content)).popped = epoch.popped ++ [content] := rfl

end Observe

theorem groupArrivals_pushed (epoch : ReplayEpoch) {content : Content}
    {groupsAuthoritative : Bool} (isGroup : content.isOfGroup = true) :
    (epoch.observe (.pushed content groupsAuthoritative)).groupArrivals =
      epoch.groupArrivals ++ [{ content, cleared := groupsAuthoritative }] := by
  simp [observe, groupArrivals, isGroup]

theorem filter_inserted (epoch : ReplayEpoch) :
    epoch.inserted.filter Content.isOfGroup = epoch.groupArrivals.map (·.content) := by
  simp only [inserted, groupArrivals, List.filter_map]
  rfl

end ReplayEpoch

namespace MessageReplayQueue

/-- The dispatch loop receives a content only while the queue accepts one. -/
def step (queue : MessageReplayQueue) :
    ReplayLabel → Option (MessageReplayQueue × List ReplayEntry)
  | .replace messages groupsAuthoritative =>
      some (queue.replace messages groupsAuthoritative, [.replaced messages groupsAuthoritative])
  | .push content groupsAuthoritative =>
      if queue.canAcceptLiveMessage then
        some (queue.push content groupsAuthoritative, [.pushed content groupsAuthoritative])
      else none
  | .activateGroups => some (queue.activateGroups, [.activated])
  | .popReady =>
      match queue.popReady with
      | none => some (queue, [])
      | some (content, rest) => some (rest, [.popped content])

def machine : Machine MessageReplayQueue ReplayLabel ReplayEntry where
  initial := {}
  step := step

def length (queue : MessageReplayQueue) : Nat :=
  queue.ready.length + queue.waitingForGroups.length

structure ReplayLaw (queue : MessageReplayQueue) (epoch : ReplayEpoch) : Prop where
  conserved : (epoch.popped ++ queue.ready ++ queue.waitingForGroups).Perm epoch.inserted
  directOrder : epoch.popped.filter (!·.isOfGroup) <+: epoch.inserted.filter (!·.isOfGroup)
  groupOrder : epoch.popped.filter Content.isOfGroup <+: epoch.inserted.filter Content.isOfGroup
  /-- By their order, the group contents that were popped are the first that were inserted. -/
  withheld : ∀ arrival ∈ epoch.groupArrivals.take (epoch.popped.countP Content.isOfGroup),
    arrival.cleared = true
  bounded : queue.length ≤ max maxPendingMessageProjections epoch.size

/-! ## What the operations keep -/

structure Books (queue : MessageReplayQueue) (epoch : ReplayEpoch) : Prop where
  groups : (epoch.popped ++ queue.ready ++ queue.waitingForGroups).filter Content.isOfGroup =
    epoch.inserted.filter Content.isOfGroup
  direct : (epoch.popped ++ queue.ready).filter (!·.isOfGroup) =
    epoch.inserted.filter (!·.isOfGroup)
  waiting : ∀ content ∈ queue.waitingForGroups, content.isOfGroup = true
  cleared : ∀ arrival ∈
      epoch.groupArrivals.take ((epoch.popped ++ queue.ready).countP Content.isOfGroup),
    arrival.cleared = true
  bounded : queue.length ≤ max maxPendingMessageProjections epoch.size

variable {queue : MessageReplayQueue} {epoch : ReplayEpoch}

theorem push_of_ready (queue : MessageReplayQueue) {content : Content}
    {groupsAuthoritative : Bool} (ready : content.isOfGroup = false ∨ groupsAuthoritative = true) :
    queue.push content groupsAuthoritative =
      { queue with ready := queue.ready ++ [content] } := by
  unfold push Content.isOfGroup at *
  rcases ready with direct | authority
  · simp [direct]
  · simp [authority]

theorem push_of_waiting (queue : MessageReplayQueue) {content : Content}
    (ofGroup : content.isOfGroup = true) :
    queue.push content false =
      { queue with waitingForGroups := queue.waitingForGroups ++ [content] } := by
  unfold push Content.isOfGroup at *
  simp [ofGroup]

theorem replace_of_authority (queue : MessageReplayQueue) (messages : List Content) :
    queue.replace messages true = { ready := messages } := by
  suffices pushed : ∀ start : MessageReplayQueue,
      messages.foldl (fun queue content => queue.push content true) start =
        { start with ready := start.ready ++ messages } by
    simpa [replace] using pushed {}
  induction messages with
  | nil => simp
  | cons content later induction =>
      intro start
      rw [List.foldl_cons, push_of_ready start (Or.inr rfl), induction]
      simp

theorem replace_without_authority (queue : MessageReplayQueue) (messages : List Content) :
    queue.replace messages false =
      { ready := messages.filter (!·.isOfGroup)
        waitingForGroups := messages.filter Content.isOfGroup } := by
  suffices pushed : ∀ start : MessageReplayQueue,
      messages.foldl (fun queue content => queue.push content false) start =
        { ready := start.ready ++ messages.filter (!·.isOfGroup)
          waitingForGroups := start.waitingForGroups ++ messages.filter Content.isOfGroup } by
    simpa [replace] using pushed {}
  induction messages with
  | nil => simp
  | cons content later induction =>
      intro start
      rw [List.foldl_cons, induction]
      cases isGroup : content.isOfGroup with
      | false => simp [push_of_ready start (Or.inl isGroup), isGroup]
      | true => simp [push_of_waiting start isGroup, isGroup]

theorem split_of_popReady {content : Content} {rest : MessageReplayQueue}
    (pop : queue.popReady = some (content, rest)) :
    queue.ready = content :: rest.ready ∧ rest.waitingForGroups = queue.waitingForGroups := by
  refine ⟨ready_of_popReady pop, ?_⟩
  unfold MessageReplayQueue.popReady at pop
  split at pop
  · cases pop
  · cases pop
    rfl

namespace Books

theorem initial : Books {} {} where
  groups := rfl
  direct := rfl
  waiting := by simp
  cleared := by simp [ReplayEpoch.groupArrivals]
  bounded := by simp [length]

theorem countP_le (books : Books queue epoch) :
    (epoch.popped ++ queue.ready).countP Content.isOfGroup ≤ epoch.groupArrivals.length := by
  have whole := congrArg List.length (books.groups.trans epoch.filter_inserted)
  rw [List.filter_append, List.length_append, List.length_map,
    ← List.countP_eq_length_filter] at whole
  omega

theorem all_cleared (books : Books queue epoch) (none : queue.waitingForGroups = []) :
    ∀ arrival ∈ epoch.groupArrivals, arrival.cleared = true := by
  have whole := congrArg List.length (books.groups.trans epoch.filter_inserted)
  rw [none, List.append_nil, List.length_map, ← List.countP_eq_length_filter] at whole
  have cleared := books.cleared
  rwa [whole, List.take_length] at cleared

theorem replace (queue : MessageReplayQueue) (epoch : ReplayEpoch) (messages : List Content)
    (groupsAuthoritative : Bool) :
    Books (queue.replace messages groupsAuthoritative)
      (epoch.observe (.replaced messages groupsAuthoritative)) := by
  cases groupsAuthoritative with
  | true =>
      rw [replace_of_authority]
      refine ⟨by simp, by simp, by simp, ?_, by simp [length, ReplayEpoch.observe]⟩
      intro arrival member
      have arrived := (List.mem_filter.mp (List.mem_of_mem_take member)).1
      rcases List.mem_map.mp arrived with ⟨content, _, rfl⟩
      rfl
  | false =>
      rw [replace_without_authority]
      have split := List.length_eq_length_filter_add (l := messages) Content.isOfGroup
      refine ⟨by simp [List.filter_filter], by simp [List.filter_filter], ?_, ?_, ?_⟩
      · intro content member
        exact (List.mem_filter.mp member).2
      · simp [List.countP_filter]
      · simp only [length, ReplayEpoch.observe]
        omega

theorem push (books : Books queue epoch) {content : Content} {groupsAuthoritative : Bool}
    (accepts : queue.canAcceptLiveMessage = true)
    (activated : groupsAuthoritative = true → queue.waitingForGroups = []) :
    Books (queue.push content groupsAuthoritative)
      (epoch.observe (.pushed content groupsAuthoritative)) := by
  have room : queue.length < maxPendingMessageProjections := by
    simpa [canAcceptLiveMessage, length] using accepts
  cases isGroup : content.isOfGroup with
  | false =>
      rw [push_of_ready queue (Or.inl isGroup)]
      refine ⟨?_, ?_, books.waiting, ?_, ?_⟩
      · simpa [isGroup] using books.groups
      · simp [isGroup, ← books.direct]
      · simpa [ReplayEpoch.groupArrivals, ReplayEpoch.observe, isGroup] using books.cleared
      · simp only [length, List.length_append, List.length_singleton] at room ⊢
        omega
  | true =>
      cases groupsAuthoritative with
      | false =>
          rw [push_of_waiting queue isGroup]
          refine ⟨?_, ?_, ?_, ?_, ?_⟩
          · simp [isGroup, ← books.groups]
          · simpa [isGroup] using books.direct
          · simpa [isGroup, or_imp, forall_and] using books.waiting
          · rw [ReplayEpoch.popped_pushed, epoch.groupArrivals_pushed isGroup,
              List.take_append_of_le_length books.countP_le]
            exact books.cleared
          · simp only [length, List.length_append, List.length_singleton] at room ⊢
            omega
      | true =>
          have none := activated rfl
          rw [push_of_ready queue (Or.inr rfl)]
          refine ⟨?_, ?_, books.waiting, ?_, ?_⟩
          · simp [isGroup, none, ← books.groups]
          · simpa [isGroup] using books.direct
          · intro arrival member
            have arrived := List.mem_of_mem_take member
            rw [epoch.groupArrivals_pushed isGroup] at arrived
            rcases List.mem_append.mp arrived with earlier | new
            · exact books.all_cleared none arrival earlier
            · rw [List.mem_singleton.mp new]
          · simp only [length, List.length_append, List.length_singleton] at room ⊢
            omega

theorem activateGroups (books : Books queue epoch) :
    Books queue.activateGroups (epoch.observe .activated) where
  groups := by simpa [MessageReplayQueue.activateGroups] using books.groups
  direct := by
    have none : queue.waitingForGroups.filter (!·.isOfGroup) = [] := by
      simpa using books.waiting
    simpa [MessageReplayQueue.activateGroups, none] using books.direct
  waiting := by simp [MessageReplayQueue.activateGroups]
  cleared := by
    intro arrival member
    have arrived := (List.mem_filter.mp (List.mem_of_mem_take member)).1
    rcases List.mem_map.mp arrived with ⟨earlier, _, rfl⟩
    rfl
  bounded := by
    simpa [length, MessageReplayQueue.activateGroups, ReplayEpoch.observe] using books.bounded

theorem popReady (books : Books queue epoch) {content : Content} {rest : MessageReplayQueue}
    (pop : queue.popReady = some (content, rest)) :
    Books rest (epoch.observe (.popped content)) := by
  have ⟨ready, waiting⟩ := split_of_popReady pop
  have shifted : epoch.popped ++ [content] ++ rest.ready = epoch.popped ++ queue.ready := by
    simp [ready]
  constructor
  · rw [ReplayEpoch.popped_popped, shifted, waiting]
    exact books.groups
  · rw [ReplayEpoch.popped_popped, shifted]
    exact books.direct
  · rw [waiting]
    exact books.waiting
  · rw [ReplayEpoch.popped_popped, shifted]
    exact books.cleared
  · refine le_trans ?_ books.bounded
    simp [length, ready, waiting]

theorem law (books : Books queue epoch) : ReplayLaw queue epoch where
  conserved := by
    have direct : (epoch.popped ++ queue.ready ++ queue.waitingForGroups).filter
        (!·.isOfGroup) = epoch.inserted.filter (!·.isOfGroup) := by
      have none : queue.waitingForGroups.filter (!·.isOfGroup) = [] := by
        simpa using books.waiting
      rw [List.filter_append, none, List.append_nil]
      exact books.direct
    have whole := List.filter_append_perm Content.isOfGroup
      (epoch.popped ++ queue.ready ++ queue.waitingForGroups)
    rw [books.groups, direct] at whole
    exact whole.symm.trans (List.filter_append_perm _ _)
  directOrder := by
    rw [← books.direct, List.filter_append]
    exact List.prefix_append _ _
  groupOrder := by
    rw [← books.groups, List.append_assoc, List.filter_append]
    exact List.prefix_append _ _
  withheld := by
    intro arrival member
    apply books.cleared
    rw [List.countP_append]
    exact List.take_subset_take_left _ (Nat.le_add_right _ _) member
  bounded := books.bounded

end Books

/-! ## Activation before authority -/

def InsertsWithoutAuthority : ReplayEntry → Prop
  | .replaced _ groupsAuthoritative | .pushed _ groupsAuthoritative => groupsAuthoritative = false
  | .activated | .popped _ => False

/-- `activate_groups` was called, and nothing was inserted without authority since. -/
def Activated (history : List ReplayEntry) : Prop :=
  History.Since (· = .activated) InsertsWithoutAuthority history

/-- Before every content that is pushed with authority, the groups were activated. -/
def ActivatesFirst (history : List ReplayEntry) : Prop :=
  History.Justified
    (fun before entry => ∀ content, entry = .pushed content true → Activated before) history

variable {history : List ReplayEntry}

theorem activatesFirst_append {more : List ReplayEntry} (ordered : ActivatesFirst history)
    (unpushed : ∀ entry ∈ more, ∀ content, entry ≠ .pushed content true) :
    ActivatesFirst (history ++ more) :=
  History.justified_append_of_forall ordered fun entry member _ content isPushed =>
    absurd isPushed (unpushed entry member content)

structure Tracked (queue : MessageReplayQueue) (history : List ReplayEntry) : Prop where
  books : Books queue (.ofHistory history)
  activated : Activated history → queue.waitingForGroups = []

theorem Tracked.initial : Tracked {} [] where
  books := Books.initial
  activated := fun activated => absurd activated (History.since_nil _ _)

theorem activated_concat {entry : ReplayEntry} (other : entry ≠ .activated)
    (activated : Activated (history ++ [entry])) :
    Activated history ∧ ¬InsertsWithoutAuthority entry := by
  rcases (History.since_concat history entry).mp activated with same | goesOn
  · exact absurd same other
  · exact goesOn

theorem Tracked.replace (queue : MessageReplayQueue) (history : List ReplayEntry)
    (messages : List Content) (groupsAuthoritative : Bool) :
    Tracked (queue.replace messages groupsAuthoritative)
      (history ++ [.replaced messages groupsAuthoritative]) where
  books := by
    rw [ReplayEpoch.ofHistory_concat]
    exact Books.replace queue _ messages groupsAuthoritative
  activated := by
    intro activated
    have authority : groupsAuthoritative = true := by
      simpa [InsertsWithoutAuthority] using (activated_concat (by simp) activated).2
    rw [authority, replace_of_authority]

theorem Tracked.push (tracked : Tracked queue history) {content : Content}
    {groupsAuthoritative : Bool} (accepts : queue.canAcceptLiveMessage = true)
    (first : groupsAuthoritative = true → Activated history) :
    Tracked (queue.push content groupsAuthoritative)
      (history ++ [.pushed content groupsAuthoritative]) where
  books := by
    rw [ReplayEpoch.ofHistory_concat]
    exact tracked.books.push accepts fun authority => tracked.activated (first authority)
  activated := by
    intro activated
    have ⟨earlier, withAuthority⟩ := activated_concat (by simp) activated
    have authority : groupsAuthoritative = true := by
      simpa [InsertsWithoutAuthority] using withAuthority
    rw [push_of_ready queue (Or.inr authority)]
    exact tracked.activated earlier

theorem Tracked.activateGroups (tracked : Tracked queue history) :
    Tracked queue.activateGroups (history ++ [.activated]) where
  books := by
    rw [ReplayEpoch.ofHistory_concat]
    exact tracked.books.activateGroups
  activated := fun _ => rfl

theorem Tracked.popReady (tracked : Tracked queue history) {content : Content}
    {rest : MessageReplayQueue} (pop : queue.popReady = some (content, rest)) :
    Tracked rest (history ++ [.popped content]) where
  books := by
    rw [ReplayEpoch.ofHistory_concat]
    exact tracked.books.popReady pop
  activated := by
    intro activated
    rw [(split_of_popReady pop).2]
    exact tracked.activated (activated_concat (by simp) activated).1

theorem Tracked.step {label : ReplayLabel} {next : MessageReplayQueue}
    {entries : List ReplayEntry} (tracked : Tracked queue history)
    (stepped : queue.step label = some (next, entries))
    (ordered : ActivatesFirst (history ++ entries)) : Tracked next (history ++ entries) := by
  cases label with
  | replace messages groupsAuthoritative =>
      cases stepped
      exact Tracked.replace queue history messages groupsAuthoritative
  | push content groupsAuthoritative =>
      simp only [MessageReplayQueue.step] at stepped
      split at stepped
      next accepts =>
        cases stepped
        apply tracked.push accepts
        rintro rfl
        exact ordered history _ [] rfl content rfl
      next => cases stepped
  | activateGroups =>
      cases stepped
      exact tracked.activateGroups
  | popReady =>
      simp only [MessageReplayQueue.step] at stepped
      split at stepped
      next =>
        cases stepped
        simpa using tracked
      next content rest pop =>
        cases stepped
        exact tracked.popReady pop

theorem tracked_of_run {labels : List ReplayLabel}
    (runs : machine.run labels = some (queue, history)) (ordered : ActivatesFirst history) :
    Tracked queue history := by
  refine @Machine.run_invariant _ _ _ machine
    (fun queue history => ActivatesFirst history → Tracked queue history)
    (fun _ => Tracked.initial) ?_ labels queue history runs ordered
  intro state earlier label next entries holds stepped ordered
  exact (holds (History.justified_append.mp ordered).1).step stepped ordered

/-- The contents popped since the last replacement and those in the queue are the ones that
were inserted since. Each class keeps its order, and no group content is popped before the
groups are known. -/
theorem replayLaw_of_run {labels : List ReplayLabel}
    (runs : machine.run labels = some (queue, history)) (ordered : ActivatesFirst history) :
    ReplayLaw queue (.ofHistory history) :=
  (tracked_of_run runs ordered).books.law

open Connection in
/-- A queue that holds a message to a group back, and takes another one once the groups are
known. -/
def heldBack : List ReplayEntry :=
  [.replaced [groupContent 1, directContent 2] false, .popped (directContent 2), .activated,
    .pushed (groupContent 3) true, .popped (groupContent 1)]

open Connection in
theorem replayLaw_of_heldBack :
    machine.run [.replace [groupContent 1, directContent 2] false, .popReady, .activateGroups,
        .push (groupContent 3) true, .popReady] =
      some ({ ready := [groupContent 3] }, heldBack) ∧
    ActivatesFirst heldBack ∧
    ReplayLaw { ready := [groupContent 3] } (.ofHistory heldBack) := by
  have runs : machine.run [.replace [groupContent 1, directContent 2] false, .popReady,
      .activateGroups, .push (groupContent 3) true, .popReady] =
      some ({ ready := [groupContent 3] }, heldBack) := by decide
  let earlier : List ReplayEntry :=
    [.replaced [groupContent 1, directContent 2] false, .popped (directContent 2)]
  have activated : Activated (earlier ++ [.activated]) := by
    rw [Activated, History.since_concat]
    exact Or.inl rfl
  have unpushed : ActivatesFirst ([] ++ (earlier ++ [.activated])) :=
    activatesFirst_append (History.justified_nil _) (by simp [earlier])
  have pushed : ActivatesFirst (earlier ++ [.activated] ++ [.pushed (groupContent 3) true]) :=
    History.justified_concat unpushed fun _ _ => activated
  have ordered : ActivatesFirst (earlier ++ [.activated] ++ [.pushed (groupContent 3) true] ++
      [.popped (groupContent 1)]) :=
    activatesFirst_append pushed (by simp)
  exact ⟨runs, ordered, replayLaw_of_run runs ordered⟩

end MessageReplayQueue

/-! ## The dispatch loop -/

def ReplayEntry.popped? : ReplayEntry → Option Content
  | .popped content => some content
  | _ => none

def ConnectionEntry.popped? : ConnectionEntry → Option Content
  | .popped content _ => some content
  | _ => none

namespace Connection

open MessageReplayQueue

structure Replays (connection : Connection) (shown : List ConnectionEntry)
    (operations : List ReplayEntry) : Prop where
  runs : ∃ labels, MessageReplayQueue.machine.run labels = some (connection.replay, operations)
  ordered : ActivatesFirst operations
  selecting : connection.control = .selecting →
    connection.session.groupsAuthoritative = true → Activated operations
  popped : operations.filterMap ReplayEntry.popped? = shown.filterMap ConnectionEntry.popped?

variable {connection next : Connection} {label : ConnectionLabel}
  {shown entries : List ConnectionEntry} {operations more : List ReplayEntry}

namespace Replays

theorem initial : Replays {} [] [] where
  runs := ⟨[], rfl⟩
  ordered := History.justified_nil _
  selecting := by simp
  popped := rfl

theorem quiet (replays : Replays connection shown operations)
    (same : next.replay = connection.replay)
    (selecting : next.control = .selecting → connection.control = .selecting ∧
      next.session.groupsAuthoritative = connection.session.groupsAuthoritative)
    (silent : entries.filterMap ConnectionEntry.popped? = []) :
    Replays next (shown ++ entries) operations where
  runs := same ▸ replays.runs
  ordered := replays.ordered
  selecting := by
    intro isSelecting authority
    have ⟨before, sameAuthority⟩ := selecting isSelecting
    exact replays.selecting before (sameAuthority ▸ authority)
  popped := by rw [List.filterMap_append, silent, List.append_nil, replays.popped]

theorem operate (replays : Replays connection shown operations) {labels : List ReplayLabel}
    (runs : MessageReplayQueue.machine.runFrom connection.replay labels = some (next.replay, more))
    (ordered : ActivatesFirst (operations ++ more))
    (selecting : next.control = .selecting → next.session.groupsAuthoritative = true →
      Activated (operations ++ more))
    (popped : more.filterMap ReplayEntry.popped? = entries.filterMap ConnectionEntry.popped?) :
    Replays next (shown ++ entries) (operations ++ more) where
  runs := by
    rcases replays.runs with ⟨earlier, begins⟩
    exact ⟨earlier ++ labels, MessageReplayQueue.machine.runFrom_append_eq_some.mpr
      ⟨_, _, _, begins, runs, rfl⟩⟩
  ordered := ordered
  selecting := selecting
  popped := by rw [List.filterMap_append, List.filterMap_append, replays.popped, popped]

end Replays

theorem silent_projection (inner : List ActorEntry) :
    (inner.map ConnectionEntry.projection).filterMap ConnectionEntry.popped? = [] := by
  simp [List.filterMap_map, ConnectionEntry.popped?, Function.comp_def]

theorem silent_of_emitted (quiet : ∀ entry ∈ entries, ∃ event, entry = .emitted event) :
    entries.filterMap ConnectionEntry.popped? = [] := by
  rw [List.filterMap_eq_nil_iff]
  intro entry member
  rcases quiet entry member with ⟨event, rfl⟩
  rfl

theorem popped_recover (error suffix : String) :
    (connection.recover error suffix).2.filterMap ConnectionEntry.popped? = [] := by
  simp only [recover]
  split <;> rfl

def roundLabels (connection : Connection) : List ReplayLabel :=
  if connection.session.groupsAuthoritative then [.activateGroups] else []

def roundEntries (connection : Connection) : List ReplayEntry :=
  if connection.session.groupsAuthoritative then [.activated] else []

theorem runs_roundReplay (connection : Connection) :
    MessageReplayQueue.machine.runFrom connection.replay connection.roundLabels =
      some (connection.roundReplay, connection.roundEntries) := by
  unfold roundLabels roundReplay roundEntries
  split <;> rfl

theorem activated_roundEntries (authority : connection.session.groupsAuthoritative = true) :
    Activated (operations ++ connection.roundEntries) := by
  rw [roundEntries, if_pos authority, Activated, History.since_concat]
  exact Or.inl rfl

theorem unpushed_roundEntries (connection : Connection) :
    ∀ entry ∈ connection.roundEntries, ∀ content, entry ≠ .pushed content true := by
  unfold roundEntries
  split <;> simp

theorem unpopped_roundEntries (connection : Connection) :
    connection.roundEntries.filterMap ReplayEntry.popped? = [] := by
  unfold roundEntries
  split <;> rfl

namespace Replays

theorem receivedContent (replays : Replays connection shown operations) (content : Content)
    (control : connection.control = .selecting)
    (accepts : connection.replay.canAcceptLiveMessage = true) :
    ∃ later, Replays (connection.receivedContent content) (shown ++ []) later := by
  cases ready : connection.session.isReady with
  | false =>
      refine ⟨operations, replays.quiet ?_ ?_ rfl⟩
      · simp [Connection.receivedContent, ready]
      · simp [Connection.receivedContent]
  | true =>
      let groupsAuthoritative := connection.session.groupsAuthoritative
      have pushed : MessageReplayQueue.machine.runFrom connection.replay
          [.push content groupsAuthoritative] =
            some ((connection.receivedContent content).replay,
              [.pushed content groupsAuthoritative]) := by
        apply MessageReplayQueue.machine.runFrom_singleton
        simp [MessageReplayQueue.machine, MessageReplayQueue.step, accepts,
          Connection.receivedContent, ready, groupsAuthoritative]
      refine ⟨_, replays.operate pushed ?_ ?_ rfl⟩
      · apply History.justified_concat replays.ordered
        intro other isPushed
        exact replays.selecting control (ReplayEntry.pushed.inj isPushed).2
      · simp [Connection.receivedContent]

theorem popReady (replays : Replays connection shown operations) {content : Content}
    {groupsAuthoritative : Bool} {inner : List ActorEntry}
    (pop : connection.roundReplay.popReady = some (content, next.replay))
    (busy : next.control ≠ .selecting) :
    ∃ later, Replays next
      (shown ++ .popped content groupsAuthoritative :: inner.map .projection) later := by
  have taken : MessageReplayQueue.machine.runFrom connection.roundReplay [.popReady] =
      some (next.replay, [.popped content]) := by
    apply MessageReplayQueue.machine.runFrom_singleton
    simp only [MessageReplayQueue.machine, MessageReplayQueue.step, pop]
  have runs := MessageReplayQueue.machine.runFrom_append_eq_some.mpr
    ⟨_, _, _, runs_roundReplay connection, taken, rfl⟩
  refine ⟨_, replays.operate runs (activatesFirst_append replays.ordered ?_) ?_ ?_⟩
  · intro entry member
    rcases List.mem_append.mp member with before | last
    · exact unpushed_roundEntries connection entry before
    · simp [List.mem_singleton.mp last]
  · intro isSelecting
    exact absurd isSelecting busy
  · rw [List.filterMap_append, unpopped_roundEntries, List.nil_append]
    exact congrArg (content :: ·) (silent_projection _).symm

theorem step (replays : Replays connection shown operations)
    (stepped : connection.step label = some (next, entries)) :
    ∃ later, Replays next (shown ++ entries) later := by
  cases transition_of_step stepped with
  | projection allowed stepped =>
      exact ⟨_, replays.quiet rfl (fun same => ⟨same, rfl⟩) (silent_projection _)⟩
  | stop running stepped => exact ⟨_, replays.quiet rfl (by simp) (silent_projection _)⟩
  | restart control =>
      refine ⟨_, replays.quiet ?_ ?_ rfl⟩
      · unfold Connection.restart
        split <;> rfl
      · unfold Connection.restart
        split
        · simp
        · dsimp only
          split <;> simp
  | delayElapsed control => exact ⟨_, replays.quiet rfl (by simp) rfl⟩
  | receiveReady control =>
      refine ⟨_, replays.quiet rfl ?_ rfl⟩
      dsimp only
      split <;> simp
  | receiveFailed control transient =>
      exact ⟨_, replays.quiet rfl (by simp [recover]) (popped_recover _ _)⟩
  | waitWith control serving stepped =>
      exact ⟨_, replays.quiet rfl (fun same => ⟨same, rfl⟩) (silent_projection _)⟩
  | waitOn control => exact ⟨_, replays.quiet rfl (fun same => ⟨same, rfl⟩) rfl⟩
  | introduced control =>
      rename_i groups
      refine ⟨_, replays.quiet rfl (by simp) ?_⟩
      cases groups <;> rfl
  | loaded control =>
      rename_i messages
      let groupsAuthoritative := connection.session.groupsAuthoritative
      have replaced : MessageReplayQueue.machine.runFrom connection.replay
          [.replace messages groupsAuthoritative] =
            some (connection.replay.replace messages groupsAuthoritative,
              [.replaced messages groupsAuthoritative]) := rfl
      exact ⟨_, replays.operate replaced (activatesFirst_append replays.ordered (by simp))
        (by simp) rfl⟩
  | loadFailed control =>
      refine ⟨_, replays.quiet rfl (by simp) (silent_of_emitted ?_)⟩
      simp
  | prepared control => exact ⟨_, replays.quiet rfl (by simp) rfl⟩
  | popped control idle room pop => exact replays.popReady pop (by simp [control])
  | select control nothing =>
      refine ⟨_, replays.operate (runs_roundReplay connection)
        (activatesFirst_append replays.ordered (unpushed_roundEntries connection)) ?_
        (unpopped_roundEntries connection)⟩
      intro _ authority
      exact activated_roundEntries authority
  | resumeWith control serving stepped =>
      exact ⟨_, replays.quiet rfl (by simp) (silent_projection _)⟩
  | resume control quiet => exact ⟨_, replays.quiet rfl (by simp) (silent_of_emitted quiet)⟩
  | receivedContent control room accepts => exact replays.receivedContent _ control accepts
  | queueEmpty control room =>
      refine ⟨_, replays.quiet rfl ?_ rfl⟩
      simp only [Connection.queueEmpty]
      split <;> simp
  | refreshed control => exact ⟨_, replays.quiet rfl (by simp) rfl⟩
  | refreshFailed control => exact ⟨_, replays.quiet rfl (by simp) rfl⟩
  | reconnect control =>
      exact ⟨_, replays.quiet rfl (by simp [recover]) (popped_recover _ _)⟩
  | groupSynced control spawned =>
      have activated : MessageReplayQueue.machine.runFrom connection.replay [.activateGroups] =
          some (connection.replay.activateGroups, [.activated]) := rfl
      exact ⟨_, replays.operate activated (activatesFirst_append replays.ordered (by simp))
        (by simp [Connection.groupSynced]) rfl⟩
  | groupSyncFailed control spawned => exact ⟨_, replays.quiet rfl (by simp [groupSynced]) rfl⟩
  | groupSyncTick control unknown unspawned => exact ⟨_, replays.quiet rfl (by simp) rfl⟩

end Replays

theorem replays_of_run {labels : List ConnectionLabel}
    (runs : machine.run labels = some (connection, shown)) :
    ∃ operations, Replays connection shown operations := by
  refine @Machine.run_invariant _ _ _ machine
    (fun connection shown => ∃ operations, Replays connection shown operations)
    ⟨[], Replays.initial⟩ ?_ labels connection shown runs
  rintro state history label next entries ⟨operations, replays⟩ stepped
  exact replays.step stepped

/-- The connection operates on its replay queue as the law of the queue demands. -/
theorem replayLaw_of_connection {labels : List ConnectionLabel}
    (runs : machine.run labels = some (connection, shown)) :
    ∃ operations, ReplayLaw connection.replay (.ofHistory operations) ∧
      operations.filterMap ReplayEntry.popped? = shown.filterMap ConnectionEntry.popped? := by
  rcases replays_of_run runs with ⟨operations, replays⟩
  rcases replays.runs with ⟨followed, inside⟩
  exact ⟨operations, (tracked_of_run inside replays.ordered).books.law, replays.popped⟩

end Connection

end SignalPurple
