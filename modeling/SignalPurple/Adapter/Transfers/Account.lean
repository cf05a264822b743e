import Mathlib.Data.Multiset.AddSub
import SignalPurple.Adapter.Transfers
import SignalPurple.Foundation.HashTable

/-! # The account of a transfer's references

Who holds a reference on a transfer: the transfer itself until it has ended, the table of
queued transfers, the user interface, and a running function (its pins). Together with what
points to what, this is the invariant of the calls. Here it is followed through the
callbacks, up to the calls of libpurple that end a transfer.
-/

namespace SignalPurple

namespace Transfers

open Program

/-! ## Steps of the programs -/

section Steps

variable {purple : XferLibrary} {state : Transfers} {history : List TransferEntry}
  {post : Unit → Transfers → List TransferEntry → Prop} {xfer : XferId} {object : Xfer}
  {context : ContextId} {attachment : OutgoingAttachment} {connection : TransferConnection}

theorem ensures_unref {holders : Multiset XferId}
    (balanced : state.xfers.Balanced Xfer.own (xfer ::ₘ holders)) :
    (purple.unref xfer).Ensures state history post ↔
      post () { state with xfers := state.xfers.unref xfer } history := by
  rcases balanced.exists_cell with ⟨cell, found, counts⟩
  -- A running transfer holds a reference on itself, so this one is not the last.
  have survives : cell.object.status = .started → 1 < cell.refs := by
    grind [Xfer.own, XferStatus.isOwned]
  rw [ensures_of_eq (purple.unref_eq found survives), List.append_nil]

section Xfer

variable (found : state.xfers.object? xfer = some object)

include found

theorem ensures_derefXfer {post : Xfer → Transfers → List TransferEntry → Prop} :
    (derefXfer xfer).Ensures state history post ↔ post object state history := by
  rw [ensures_of_eq (derefXfer_eq found), List.append_nil]

theorem ensures_setXfer {change : Xfer → Xfer} :
    (setXfer xfer change).Ensures state history post ↔
      post () { state with xfers := state.xfers.set xfer (change object) } history := by
  rw [ensures_of_eq (setXfer_eq found change), List.append_nil]

theorem ensures_ref :
    (purple.ref xfer).Ensures state history post ↔
      post () { state with xfers := state.xfers.ref xfer } history := by
  rw [ensures_of_eq (purple.ref_eq found), List.append_nil]

theorem ensures_changeStatus {status : XferStatus} :
    (changeStatus xfer status).Ensures state history post ↔
      post () { state with xfers := state.xfers.set xfer { object with status } }
        (history ++ if status.isEnded then [.ended xfer status] else []) := by
  rw [changeStatus, ensures_bind, ensures_setXfer found]
  cases status.isEnded with
  | true => simp
  | false => simp

theorem ensures_changeStatus_of_not_ended {status : XferStatus} (quiet : status.isEnded = false) :
    (changeStatus xfer status).Ensures state history post ↔
      post () { state with xfers := state.xfers.set xfer { object with status } } history := by
  rw [ensures_changeStatus found, quiet, if_neg Bool.false_ne_true, List.append_nil]

end Xfer

section Context

variable (found : state.contexts context = some attachment)

include found

theorem ensures_derefContext {post : OutgoingAttachment → Transfers → List TransferEntry → Prop} :
    (derefContext context).Ensures state history post ↔ post attachment state history := by
  rw [derefContext, ensures_bind, ensures_read, found, ensures_require]

theorem ensures_setContext {changed : OutgoingAttachment} :
    (setContext context changed).Ensures state history post ↔
      post () { state with contexts := Function.update state.contexts context (some changed) }
        history := by
  rw [setContext, ensures_bind, ensures_derefContext found, ensures_write]

theorem ensures_destroy :
    (signalOutgoingAttachmentDestroy context).Ensures state history post ↔
      post () { state with contexts := Function.update state.contexts context none } history := by
  rw [signalOutgoingAttachmentDestroy, ensures_bind, ensures_derefContext found, ensures_write]

end Context

theorem ensures_derefConnection
    {post : TransferConnection → Transfers → List TransferEntry → Prop}
    (found : state.connection = some connection) :
    derefConnection.Ensures state history post ↔ post connection state history := by
  rw [derefConnection, ensures_bind, ensures_read, found, ensures_require]

theorem ensures_setConnection {change : TransferConnection → TransferConnection}
    (found : state.connection = some connection) :
    (setConnection change).Ensures state history post ↔
      post () { state with connection := some (change connection) } history := by
  rw [setConnection, ensures_bind, ensures_derefConnection found, ensures_write]

end Steps

/-! ## The account -/

def outgoing (state : Transfers) : List (UInt64 × XferId) :=
  state.connection.elim [] TransferConnection.outgoingAttachments

/-- References that are held between two calls of the plugin. -/
def holders (state : Transfers) : Multiset XferId :=
  ↑(state.uiHeld ++ state.outgoing.map Prod.snd)

def Points (state : Transfers) (xfer : XferId) (context : ContextId) : Prop :=
  ∃ object, state.xfers.object? xfer = some object ∧ object.data = some context

/-- A queued transfer: it points to the context that has its request number, and it runs
unless it is just being ended. -/
def Queued (ending : Option XferId) (state : Transfers) (requestId : UInt64) (xfer : XferId) :
    Prop :=
  ∃ object context attachment, state.xfers.object? xfer = some object ∧
    object.data = some context ∧ state.contexts context = some attachment ∧
    attachment.requestId = requestId ∧ (object.status = .started ∨ ending = some xfer)

/-- What holds between two calls (without pins and with nothing being ended) and, as far as
it is said here, in the middle of one. -/
structure Sound (pins : Multiset XferId) (ending : Option XferId) (state : Transfers) : Prop where
  balanced : state.xfers.Balanced Xfer.own (state.holders + pins)
  linked : ∀ xfer context, state.Points xfer context → (state.contexts context).isSome
  exclusive : ∀ xfer other context, state.Points xfer context → state.Points other context →
    xfer = other
  registered : ∀ context attachment, state.contexts context = some attachment →
    attachment.connected = true ∧ ∃ connection, state.connection = some connection ∧
      context ∈ connection.outgoingAttachmentContexts ∧
      (attachment.requestId = 0 ∨ attachment.requestId < connection.nextRequestId)
  listed : ∀ connection, state.connection = some connection →
    connection.outgoingAttachmentContexts.Nodup ∧
      ∀ context ∈ connection.outgoingAttachmentContexts, (state.contexts context).isSome
  distinct : ∀ context other attachment otherAttachment,
    state.contexts context = some attachment → state.contexts other = some otherAttachment →
    attachment.requestId = otherAttachment.requestId → attachment.requestId ≠ 0 → context = other
  keys : (state.outgoing.map Prod.fst).Nodup
  queued : ∀ requestId xfer, (requestId, xfer) ∈ state.outgoing →
    requestId ≠ 0 ∧ Queued ending state requestId xfer
  freshXfer : ∀ xfer, state.nextXfer ≤ xfer → state.xfers.object? xfer = none
  freshContext : ∀ context, state.nextContext ≤ context → state.contexts context = none

/-! ## A context is freed with its transfer -/

section Free

variable {state : Transfers} {pins : Multiset XferId} {ending : Option XferId} {xfer : XferId}
  {object : Xfer} {context : ContextId} {attachment : OutgoingAttachment}
  {connection : TransferConnection}

theorem outgoing_eq (connected : state.connection = some connection) :
    state.outgoing = connection.outgoingAttachments := by
  rw [outgoing, connected]
  rfl

theorem Sound.unique (sound : Sound pins ending state) {other : XferId} {requestId : UInt64}
    (points : state.Points xfer context) (found : state.contexts context = some attachment)
    (same : attachment.requestId = requestId) (member : (requestId, other) ∈ state.outgoing) :
    other = xfer := by
  have queued := sound.queued requestId other member
  have distinct := sound.distinct
  have exclusive := sound.exclusive other xfer
  grind [Points, Queued]

theorem holders_removeOutgoing (sound : Sound pins ending state)
    (connected : state.connection = some connection) {requestId : UInt64}
    (member : (requestId, xfer) ∈ connection.outgoingAttachments) :
    state.holders = xfer ::ₘ ↑(state.uiHeld ++
      (connection.outgoingAttachments.filter (·.1 ≠ requestId)).map Prod.snd) := by
  have keys := sound.keys
  rw [outgoing_eq connected] at keys
  have split := (HashTable.perm_cons_remove keys member).map Prod.snd
  rw [holders, outgoing_eq connected, Multiset.cons_coe, Multiset.coe_eq_coe]
  exact (split.append_left _).trans List.perm_middle

theorem Sound.withoutContext (sound : Sound pins ending state) {heap : RefHeap XferId Xfer}
    {table : List (UInt64 × XferId)} {endingLater : Option XferId} {next : Transfers}
    (connected : state.connection = some connection)
    (isNext : next =
      { state with
        xfers := heap
        contexts := Function.update state.contexts context none
        connection := some
          { connection with
            outgoingAttachmentContexts :=
              connection.outgoingAttachmentContexts.filter (· ≠ context)
            outgoingAttachments := table } })
    (balanced : next.xfers.Balanced Xfer.own (next.holders + pins))
    (points : ∀ other pointee, next.Points other pointee →
      pointee ≠ context ∧ state.Points other pointee)
    (keys : (table.map Prod.fst).Nodup)
    (queued : ∀ requestId other, (requestId, other) ∈ table →
      requestId ≠ 0 ∧ Queued endingLater next requestId other)
    (fresh : ∀ other, state.xfers.object? other = none → next.xfers.object? other = none) :
    Sound pins endingLater next := by
  have contexts : ∀ other, next.contexts other =
      if other = context then none else state.contexts other := by
    simp [isNext, Function.update_apply]
  have outgoing : next.outgoing = table := by
    rw [isNext]
    rfl
  rcases sound with ⟨_, linked, exclusive, registered, listed, distinct, _, _, freshXfer,
    freshContext⟩
  constructor
  · exact balanced
  · grind
  · grind
  · grind
  · grind [List.Nodup.filter]
  · grind
  · rwa [outgoing]
  · rwa [outgoing]
  · grind
  · grind

/-- What the transfer points to, and what the context points to. -/
structure Follows (state : Transfers) (xfer : XferId) (object : Xfer) (context : ContextId)
    (attachment : OutgoingAttachment) (connection : TransferConnection) : Prop where
  found : state.xfers.object? xfer = some object
  data : object.data = some context
  isContext : state.contexts context = some attachment
  connected : state.connection = some connection

def Follows.released (_ : Follows state xfer object context attachment connection) : Transfers :=
  let cut := state.xfers.set xfer { object with data := none }
  { state with
    xfers :=
      if (attachment.requestId, xfer) ∈ connection.outgoingAttachments then cut.unref xfer
      else cut
    contexts := Function.update state.contexts context none
    connection := some
      { connection with
        outgoingAttachmentContexts :=
          connection.outgoingAttachmentContexts.filter (· ≠ context)
        outgoingAttachments :=
          connection.outgoingAttachments.filter (·.1 ≠ attachment.requestId) } }

theorem Follows.points (follows : Follows state xfer object context attachment connection) :
    state.Points xfer context := ⟨object, follows.found, follows.data⟩

theorem Sound.follows (sound : Sound pins ending state)
    (found : state.xfers.object? xfer = some object) (data : object.data = some context) :
    ∃ attachment connection, Follows state xfer object context attachment connection := by
  have linked := sound.linked xfer context ⟨object, found, data⟩
  rcases Option.isSome_iff_exists.mp linked with ⟨attachment, isContext⟩
  rcases sound.registered context attachment isContext with ⟨_, connection, connected, _, _⟩
  exact ⟨attachment, connection, found, data, isContext, connected⟩

variable (follows : Follows state xfer object context attachment connection)
  (sound : Sound pins ending state)

include follows sound

/-- The request of the transfer stands for the transfer in the table. -/
theorem Follows.member_iff {requestId : UInt64} {other : XferId}
    (member : (requestId, other) ∈ connection.outgoingAttachments) :
    requestId = attachment.requestId ↔ other = xfer := by
  rw [← outgoing_eq follows.connected] at member
  have queued := sound.queued requestId other member
  have unique := fun same => sound.unique follows.points follows.isContext same member
  rcases follows with ⟨found, data, isContext, _⟩
  grind [Queued]

theorem Follows.filter_eq_self
    (absent : (attachment.requestId, xfer) ∉ connection.outgoingAttachments) :
    connection.outgoingAttachments.filter (·.1 ≠ attachment.requestId) =
      connection.outgoingAttachments := by
  apply List.filter_eq_self.mpr
  intro entry member
  have isXfer := follows.member_iff sound member
  grind

theorem Follows.outgoing_released :
    follows.released.outgoing =
      state.outgoing.filter (·.2 ≠ xfer) := by
  rw [outgoing_eq follows.connected]
  apply List.filter_congr
  intro entry member
  rw [decide_eq_decide, not_iff_not]
  exact follows.member_iff sound member

theorem Follows.balanced_cut :
    (state.xfers.set xfer { object with data := none }).Balanced Xfer.own
      (state.holders + pins) :=
  sound.balanced.set follows.found rfl

theorem Follows.balanced_released :
    follows.released.xfers.Balanced Xfer.own
      (follows.released.holders + pins) := by
  have cut := follows.balanced_cut sound
  by_cases member : (attachment.requestId, xfer) ∈ connection.outgoingAttachments
  · rw [holders_removeOutgoing sound follows.connected member, Multiset.cons_add] at cut
    simp only [released, if_pos member]
    exact cut.unref
  · simp only [released, if_neg member, holders, outgoing]
    rw [holders, outgoing_eq follows.connected] at cut
    simp only [Option.elim_some, follows.filter_eq_self sound member]
    exact cut

theorem Follows.object?_released
    (held : connection.outgoingAttachments = [] ∨ xfer ∈ pins ∨ 0 < object.own) (other : XferId) :
    follows.released.xfers.object? other =
      if other = xfer then some { object with data := none } else state.xfers.object? other := by
  have cut := follows.balanced_cut sound
  have objects := RefHeap.object?_set follows.found { object with data := none }
  by_cases member : (attachment.requestId, xfer) ∈ connection.outgoingAttachments
  · rw [holders_removeOutgoing sound follows.connected member, Multiset.cons_add] at cut
    simp only [released, if_pos member]
    rw [cut.object?_unref, objects]
    rcases held with empty | pinned | owns
    · simp [empty] at member
    · exact Or.inl (Multiset.mem_add.mpr (Or.inr pinned))
    · refine Or.inr ⟨{ object with data := none }, ?_, owns⟩
      rw [objects, if_pos rfl]
  · simp only [released, if_neg member]
    exact objects other

omit sound in
theorem Follows.sound_released (sound : Sound pins (some xfer) state)
    (held : connection.outgoingAttachments = [] ∨ xfer ∈ pins ∨ 0 < object.own) :
    Sound pins none follows.released := by
  have objects := follows.object?_released sound held
  have contexts : ∀ other, follows.released.contexts
      other = if other = context then none else state.contexts other :=
    Function.update_apply _ _ _
  have balanced := follows.balanced_released sound
  have keys := sound.keys
  have exclusive := sound.exclusive
  have queued := sound.queued
  rw [outgoing_eq follows.connected] at keys queued
  have points := follows.points
  have isXfer := @Follows.member_iff _ _ _ _ _ _ _ _ follows sound
  rcases follows with ⟨found, data, isContext, connected⟩
  refine sound.withoutContext connected (by rfl) balanced ?_ (HashTable.nodup_remove keys _) ?_ ?_
  · grind [Points]
  · grind [Queued]
  · grind

theorem Follows.ensures_removeOutgoing {purple : XferLibrary}
    {history : List TransferEntry} {post : Unit → Transfers → List TransferEntry → Prop}
    (holds : post () { follows.released with
      contexts := state.contexts } history) :
    (removeOutgoing purple attachment.requestId).Ensures
      { state with
        xfers := state.xfers.set xfer { object with data := none }
        connection := some
          { connection with
            outgoingAttachmentContexts :=
              connection.outgoingAttachmentContexts.filter (· ≠ context) } }
      history post := by
  have cut := follows.balanced_cut sound
  have keys := sound.keys
  rw [outgoing_eq follows.connected] at keys
  rw [removeOutgoing, ensures_bind, ensures_derefConnection rfl]
  cases found : connection.outgoingAttachments.lookup attachment.requestId with
  | none =>
      have absent : (attachment.requestId, xfer) ∉ connection.outgoingAttachments := by
        intro member
        rw [HashTable.lookup_of_mem keys member] at found
        cases found
      simp only [released, if_neg absent, follows.filter_eq_self sound absent] at holds
      simp only [ensures_pure]
      exact holds
  | some other =>
      have member := HashTable.mem_of_lookup found
      have isXfer : other = xfer := (follows.member_iff sound member).mp rfl
      subst isXfer
      rw [holders_removeOutgoing sound follows.connected member, Multiset.cons_add] at cut
      simp only
      rw [ensures_bind, ensures_setConnection rfl]
      refine (ensures_unref cut).mpr ?_
      simpa only [released, if_pos member] using holds

theorem Follows.ensures_free {purple : XferLibrary} {history : List TransferEntry}
    {post : Unit → Transfers → List TransferEntry → Prop}
    (holds : post () follows.released history) :
    (signalOutgoingAttachmentFree purple xfer).Ensures state history post := by
  have isConnected := (sound.registered context attachment follows.isContext).1
  rw [signalOutgoingAttachmentFree, ensures_bind, ensures_derefXfer follows.found]
  simp only [follows.data]
  rw [ensures_bind, ensures_setXfer follows.found, ensures_bind]
  refine (ensures_derefContext (by exact follows.isContext)).mpr ?_
  rw [if_pos isConnected, ensures_bind, removeContext]
  refine (ensures_setConnection (by exact follows.connected)).mpr ?_
  by_cases number : attachment.requestId = 0
  · have absent : (attachment.requestId, xfer) ∉ connection.outgoingAttachments := by
      intro member
      rw [← outgoing_eq follows.connected] at member
      exact (sound.queued _ _ member).1 number
    simp only [released, if_neg absent, follows.filter_eq_self sound absent] at holds
    rw [if_neg (not_not_intro number)]
    exact (ensures_destroy (by exact follows.isContext)).mpr holds
  · rw [if_pos number, ensures_bind]
    apply follows.ensures_removeOutgoing sound
    exact (ensures_destroy (by exact follows.isContext)).mpr holds

end Free

/-! ## Changes of one transfer -/

section Changes

variable {state : Transfers} {pins later : Multiset XferId} {ending endingLater : Option XferId}
  {xfer : XferId} {object changed : Xfer} {heap : RefHeap XferId Xfer}

theorem Sound.withHeap (sound : Sound pins ending state)
    (balanced : heap.Balanced Xfer.own (state.holders + later))
    (points : ∀ other context, { state with xfers := heap }.Points other context →
      state.Points other context)
    (queued : ∀ requestId other, Queued ending state requestId other →
      other ∈ state.holders + later →
      Queued endingLater { state with xfers := heap } requestId other)
    (fresh : ∀ other, state.xfers.object? other = none → heap.object? other = none) :
    Sound later endingLater { state with xfers := heap } := by
  rcases sound with ⟨_, linked, exclusive, registered, listed, distinct, keys, wasQueued,
    freshXfer, freshContext⟩
  refine ⟨balanced, by grind, by grind, registered, listed, distinct, keys, ?_, by grind,
    freshContext⟩
  intro requestId other member
  have held : other ∈ state.holders :=
    List.mem_append_right _ (List.mem_map.mpr ⟨_, member, rfl⟩)
  have before := wasQueued requestId other member
  exact ⟨before.1, queued requestId other before.2 (Multiset.mem_add.mpr (Or.inl held))⟩

theorem Sound.change (sound : Sound pins ending state)
    (found : state.xfers.object? xfer = some object) (data : changed.data = object.data)
    (balanced : (state.xfers.set xfer changed).Balanced Xfer.own (state.holders + later))
    (running : object.status = .started → changed.status = .started ∨ endingLater = some xfer)
    (weaker : ending = none ∨ ending = endingLater) :
    Sound later endingLater { state with xfers := state.xfers.set xfer changed } := by
  have objects := RefHeap.object?_set found changed
  apply sound.withHeap balanced
  · grind [Points]
  · grind [Queued]
  · grind

/-- The reference that the transfer came with is left to the function that ends it. -/
theorem Sound.ends (sound : Sound pins none state) {status : XferStatus}
    (found : state.xfers.object? xfer = some object) (owned : object.status.isOwned = true)
    (releases : status.isOwned = false) :
    Sound (xfer ::ₘ pins) (some xfer)
      { state with xfers := state.xfers.set xfer { object with status } } := by
  refine sound.change found (by rfl) ?_ (fun _ => Or.inr rfl) (Or.inl rfl)
  rw [Multiset.add_cons]
  apply sound.balanced.release found
  simp [Xfer.own, owned, releases]

theorem Sound.withObject (sound : Sound pins ending state)
    (found : state.xfers.object? xfer = some object) (data : changed.data = object.data)
    (own : changed.own = object.own)
    (running : object.status = .started → changed.status = .started) :
    Sound pins ending { state with xfers := state.xfers.set xfer changed } :=
  sound.change found data (sound.balanced.set found own) (fun started => Or.inl (running started))
    (Or.inr rfl)

theorem Sound.recount (sound : Sound pins ending state)
    (balanced : heap.Balanced Xfer.own (state.holders + later))
    (objects : ∀ other after, heap.object? other = some after →
      state.xfers.object? other = some after) :
    Sound later ending { state with xfers := heap } := by
  apply sound.withHeap balanced
  · grind [Points]
  · intro requestId other before held
    rcases balanced.exists_object held with ⟨after, isAfter⟩
    grind [Queued]
  · intro other unused
    cases found : heap.object? other with
    | none => rfl
    | some after => grind

theorem Sound.pin (sound : Sound pins ending state)
    (found : state.xfers.object? xfer = some object) :
    Sound (xfer ::ₘ pins) ending { state with xfers := state.xfers.ref xfer } := by
  apply sound.recount
  · rw [Multiset.add_cons]
    exact sound.balanced.ref found
  · intro other after isAfter
    rwa [RefHeap.object?_ref] at isAfter

theorem Sound.unpin (sound : Sound (xfer ::ₘ pins) ending state) :
    Sound pins ending { state with xfers := state.xfers.unref xfer } := by
  have balanced := sound.balanced
  rw [Multiset.add_cons] at balanced
  exact sound.recount balanced.unref fun _ _ => RefHeap.object?_of_unref

theorem Sound.ensures_unref {purple : XferLibrary} (sound : Sound (xfer ::ₘ pins) ending state)
    {history : List TransferEntry} {post : Unit → Transfers → List TransferEntry → Prop} :
    (purple.unref xfer).Ensures state history post ↔
      post () { state with xfers := state.xfers.unref xfer } history := by
  have balanced := sound.balanced
  rw [Multiset.add_cons] at balanced
  exact Transfers.ensures_unref balanced

end Changes

/-! ## The end of a transfer -/

/-- What the callbacks change when they free the context of a transfer. -/
structure Freed (xfer : XferId) (object : Xfer) (state next : Transfers) : Prop where
  objects : ∀ other, next.xfers.object? other =
    if other = xfer then some { object with data := none } else state.xfers.object? other
  outgoing : next.outgoing = state.outgoing.filter (·.2 ≠ xfer)
  connected : next.connection.isSome = state.connection.isSome
  nextXfer : next.nextXfer = state.nextXfer

/-- What is different after a transfer has come to its end. -/
structure Finished (xfer : XferId) (status : XferStatus) (state next : Transfers) : Prop where
  others : ∀ other, other ≠ xfer → next.xfers.object? other = state.xfers.object? other
  self : ∀ object, next.xfers.object? xfer = some object →
    object.data = none ∧ object.status = status
  outgoing : next.outgoing = state.outgoing.filter (·.2 ≠ xfer)
  connected : next.connection.isSome = state.connection.isSome
  nextXfer : next.nextXfer = state.nextXfer

section Ends

variable {purple : XferLibrary} {state : Transfers} {pins : Multiset XferId} {xfer : XferId}
  {object : Xfer} {history : List TransferEntry} {ending : Option XferId} {status : XferStatus}

theorem Sound.not_queued (sound : Sound pins ending state)
    (found : state.xfers.object? xfer = some object) (cut : object.data = none) :
    ∀ requestId, (requestId, xfer) ∉ state.outgoing := by
  have queued := sound.queued
  grind [Queued]

theorem Sound.weaken (sound : Sound pins none state) : Sound pins ending state := by
  have queued := sound.queued
  refine { sound with queued := ?_ }
  grind [Queued]

theorem Sound.settle (sound : Sound pins (some xfer) state)
    (unqueued : ∀ requestId, (requestId, xfer) ∉ state.outgoing) : Sound pins none state := by
  have queued := sound.queued
  refine { sound with queued := ?_ }
  grind [Queued]

theorem Sound.running (sound : Sound pins none state) {requestId : UInt64}
    (member : (requestId, xfer) ∈ state.outgoing) :
    ∃ object, state.xfers.object? xfer = some object ∧ object.status = .started := by
  have queued := sound.queued requestId xfer member
  grind [Queued]

theorem Sound.ensures_free (sound : Sound pins (some xfer) state)
    (found : state.xfers.object? xfer = some object) (held : xfer ∈ pins ∨ 0 < object.own) :
    (signalOutgoingAttachmentFree purple xfer).Ensures state history fun _ next shown =>
      Sound pins none next ∧ Freed xfer object state next ∧ shown = history := by
  cases data : object.data with
  | none =>
      have unqueued := sound.not_queued found data
      rw [signalOutgoingAttachmentFree, ensures_bind, ensures_derefXfer found]
      simp only [data, ensures_pure, and_true]
      refine ⟨sound.settle unqueued, ?_, ?_, rfl, rfl⟩
      · have same : { object with data := none } = object := by rw [← data]
        grind
      · symm
        apply List.filter_eq_self.mpr
        grind
  | some context =>
      rcases sound.follows found data with ⟨attachment, connection, follows⟩
      apply follows.ensures_free sound
      refine ⟨follows.sound_released sound (Or.inr held),
        ⟨follows.object?_released sound (Or.inr held), follows.outgoing_released sound, ?_, rfl⟩, rfl⟩
      rw [follows.connected]
      rfl

/-- The core is told to cancel requests, and nothing else is shown. -/
def TellsCore (history shown : List TransferEntry) : Prop :=
  ∃ cancels : List UInt64, shown = history ++ cancels.map .coreCancel

theorem Sound.ensures_cancelCallback (sound : Sound pins (some xfer) state)
    (found : state.xfers.object? xfer = some object) (held : xfer ∈ pins ∨ 0 < object.own) :
    (signalOutgoingAttachmentCancel purple xfer).Ensures state history fun _ next shown =>
      Sound pins none next ∧ Freed xfer object state next ∧ TellsCore history shown := by
  have frees : ∀ told, TellsCore history told →
      (signalOutgoingAttachmentFree purple xfer).Ensures state told fun _ next shown =>
        Sound pins none next ∧ Freed xfer object state next ∧ TellsCore history shown := by
    intro told tells
    apply (sound.ensures_free found held).mono
    intro _ next shown freed
    exact ⟨freed.1, freed.2.1, freed.2.2 ▸ tells⟩
  rw [signalOutgoingAttachmentCancel, ensures_bind, ensures_derefXfer found]
  cases data : object.data with
  | none => exact frees _ ⟨[], by simp⟩
  | some context =>
      rcases sound.follows found data with ⟨attachment, connection, follows⟩
      have isConnected := (sound.registered context attachment follows.isContext).1
      simp only
      rw [ensures_bind, ensures_derefContext follows.isContext, if_pos isConnected,
        ensures_bind, ensures_derefConnection follows.connected]
      split
      · rw [ensures_bind, ensures_emit]
        exact frees _ ⟨[attachment.requestId], rfl⟩
      · exact frees _ ⟨[], by simp⟩

theorem Freed.finished {before next : Transfers} {changed : Xfer}
    (freed : Freed xfer changed { before with xfers := before.xfers.set xfer changed } next)
    (found : before.xfers.object? xfer = some object) :
    Finished xfer changed.status before { next with xfers := next.xfers.unref xfer } := by
  have objects := freed.objects
  have changes := RefHeap.object?_set found changed
  refine ⟨?_, ?_, freed.outgoing, freed.connected, freed.nextXfer⟩
  · intro other different
    have kept : (next.xfers.unref xfer).object? other = next.xfers.object? other :=
      RefHeap.object?_unref_of_ne different
    grind
  · intro after isAfter
    have isBefore := RefHeap.object?_of_unref isAfter
    grind

/-- A call of libpurple that lets go of a transfer sets the status, frees the context in a
callback and drops the reference that the transfer came with. -/
theorem Sound.ensures_finish (sound : Sound pins none state)
    (found : state.xfers.object? xfer = some object) (owned : object.status.isOwned = true)
    (releases : status.isOwned = false) {callback : TransferProgram Unit}
    {shows : List TransferEntry → Prop}
    (calls : ∀ next : Transfers, next.xfers.object? xfer = some { object with status } →
      Sound (xfer ::ₘ pins) (some xfer) next →
      callback.Ensures next history fun _ last shown =>
        Sound (xfer ::ₘ pins) none last ∧ Freed xfer { object with status } next last ∧
          shows shown) :
    Program.Ensures (do
        callback
        purple.unref xfer)
      { state with xfers := state.xfers.set xfer { object with status } } history
      fun _ next shown => Sound pins none next ∧ Finished xfer status state next ∧ shows shown := by
  rw [ensures_bind]
  apply (calls _ (by rw [RefHeap.object?_set found, if_pos rfl])
    (sound.ends found owned releases)).mono
  intro _ next shown freed
  rw [freed.1.ensures_unref]
  exact ⟨freed.1.unpin, freed.2.1.finished found, freed.2.2⟩

theorem Sound.ensures_cancel (sound : Sound pins none state)
    (found : state.xfers.object? xfer = some object) (owned : object.status.isOwned = true)
    (cancels : status = .cancelLocal ∨ status = .cancelRemote) :
    (cancelXfer purple status xfer).Ensures state history fun _ next shown =>
      Sound pins none next ∧ Finished xfer status state next ∧
        TellsCore (history ++ [.ended xfer status]) shown := by
  have ends : status.isEnded = true ∧ status.isOwned = false := by
    rcases cancels with rfl | rfl
    · exact ⟨rfl, rfl⟩
    · exact ⟨rfl, rfl⟩
  rw [cancelXfer, ensures_congr (purple.cancel_eq _ found owned cancels), ensures_bind,
    ensures_changeStatus found, if_pos ends.1]
  apply sound.ensures_finish found owned ends.2
  intro next isNext ending
  exact ending.ensures_cancelCallback isNext (Or.inl (Multiset.mem_cons_self _ _))

theorem Sound.ensures_requestDenied (sound : Sound pins none state)
    (found : state.xfers.object? xfer = some object) (waiting : object.status = .notStarted) :
    (purple.requestDenied (outgoingCallbacks purple) xfer).Ensures state history
      fun _ next shown =>
        Sound pins none next ∧ Finished xfer .dropped state next ∧ shown = history := by
  rw [ensures_congr (purple.requestDenied_eq _ found waiting), ensures_bind,
    ensures_changeStatus_of_not_ended found rfl]
  apply sound.ensures_finish found (by rw [waiting]; rfl) (by rfl)
  intro next isNext ending
  exact ending.ensures_free isNext (Or.inl (Multiset.mem_cons_self _ _))

theorem Sound.ensures_completeXfer (sound : Sound pins none state)
    (found : state.xfers.object? xfer = some object) (owned : object.status.isOwned = true) :
    (completeXfer purple xfer).Ensures state history fun _ next shown =>
      Sound pins none next ∧ Finished xfer .done state next ∧
        shown = history ++ [.ended xfer .done] := by
  have progressed : Sound pins none
      { state with xfers := state.xfers.set xfer { object with bytesSent := object.size } } :=
    sound.withObject found rfl rfl id
  have changes := RefHeap.object?_set found { object with bytesSent := object.size }
  have isChanged := changes xfer
  rw [if_pos rfl] at isChanged
  rw [completeXfer, ensures_bind, ensures_derefXfer found, ensures_bind,
    ensures_of_eq (purple.setBytesSent_eq _ found), List.append_nil, ensures_bind]
  refine (ensures_congr (purple.setCompleted_eq isChanged)).mpr ?_
  refine (ensures_changeStatus (by exact isChanged)).mpr ?_
  refine (ensures_congr (purple.finish_eq _ (by rw [RefHeap.object?_set isChanged, if_pos rfl])
    (by rfl))).mpr ?_
  apply (progressed.ensures_finish isChanged owned (by rfl) ?_).mono
  · intro _ next shown ended
    rcases ended with ⟨after, ⟨others, self, outgoing, connected, nextXfer⟩, isShown⟩
    refine ⟨after, ⟨?_, self, outgoing, connected, nextXfer⟩, isShown⟩
    grind
  · intro next isNext ending
    exact ending.ensures_free isNext (Or.inl (Multiset.mem_cons_self _ _))

end Ends

end Transfers

end SignalPurple
