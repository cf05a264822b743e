import SignalPurple.Adapter.Transfers.Outcome

/-! # The end of a connection

`signal_close`: the queued transfers are pinned, cancelled and let go, then every context is
cut off from its transfer and freed, and at last the connection itself.
-/

namespace SignalPurple

namespace Transfers

open Program

section Close

variable {purple : XferLibrary} {state : Transfers} {pins : Multiset XferId}
  {history : List TransferEntry} {connection : TransferConnection} {spared : XferId}

theorem Sound.withConnection {ending : Option XferId} {changed : TransferConnection}
    (sound : Sound pins ending state) (isConnection : state.connection = some connection)
    (outgoing : changed.outgoingAttachments = connection.outgoingAttachments)
    (contexts : changed.outgoingAttachmentContexts = connection.outgoingAttachmentContexts)
    (numbers : connection.nextRequestId ≤ changed.nextRequestId) :
    Sound pins ending { state with connection := some changed } := by
  have sameOutgoing : { state with connection := some changed }.outgoing = state.outgoing := by
    rw [outgoing_eq isConnection, ← outgoing]
    rfl
  have sameHolders : { state with connection := some changed }.holders = state.holders := by
    rw [holders, sameOutgoing, holders]
  rcases sound with ⟨balanced, linked, exclusive, registered, listed, distinct, keys, queued,
    freshXfer, freshContext⟩
  refine ⟨sameHolders ▸ balanced, linked, exclusive, ?_, ?_, distinct, sameOutgoing ▸ keys, ?_,
    freshXfer, freshContext⟩
  · intro context attachment isContext
    have before := registered context attachment isContext
    grind [UInt64.lt_of_lt_of_le]
  · grind
  · rw [sameOutgoing]
    exact queued

theorem Kept.sameXfers {next : Transfers} {later : Multiset XferId} (kept : Kept pins state history)
    (sound : Sound later none next) (xfers : next.xfers = state.xfers)
    (nextXfer : next.nextXfer = state.nextXfer) (outgoing : next.outgoing = state.outgoing) :
    Kept later next history := by
  refine ⟨sound, kept.told.silent ?_ outgoing⟩
  intro xfer past
  rwa [Over, xfers, nextXfer]

/-- The transfer has the status that it had, if it is still there. -/
def KeepsStatus (xfer : XferId) (state next : Transfers) : Prop :=
  ∀ after, next.xfers.object? xfer = some after →
    ∃ before, state.xfers.object? xfer = some before ∧ before.status = after.status

theorem KeepsStatus.refl (xfer : XferId) (state : Transfers) : KeepsStatus xfer state state :=
  fun after isAfter => ⟨after, isAfter, rfl⟩

theorem KeepsStatus.trans {xfer : XferId} {first second third : Transfers}
    (earlier : KeepsStatus xfer first second) (later : KeepsStatus xfer second third) :
    KeepsStatus xfer first third := by
  grind [KeepsStatus]

/-- Every transfer that is active when the account is closed gets a pin. -/
theorem Kept.pinAll (kept : Kept pins state history) {active : List XferId}
    (queued : ∀ xfer ∈ active, ∃ requestId, (requestId, xfer) ∈ state.outgoing) :
    (forEach purple.ref active).Ensures state history fun _ next shown =>
      Kept (↑active + pins) next shown ∧ next.connection = state.connection ∧
        KeepsStatus spared state next := by
  -- The invariant of the loop: the transfers before the next one are pinned.
  apply (ensures_forEach (fun rest next shown => ∃ pinned : List XferId, active = pinned ++ rest ∧
    Kept (↑pinned + pins) next shown ∧ next.connection = state.connection ∧
      KeepsStatus spared state next) ?_ active ?_).mono
  · intro _ next shown holds
    rcases holds with ⟨pinned, split, kept, same⟩
    rw [List.append_nil] at split
    rw [split]
    exact ⟨kept, same⟩
  · intro xfer later next shown holds
    rcases holds with ⟨pinned, split, kept, same, keeps⟩
    rcases queued xfer (by simp [split]) with ⟨requestId, member⟩
    rw [outgoing, ← same, ← outgoing] at member
    rcases kept.sound.running member with ⟨object, found, _⟩
    refine (ensures_ref found).mpr ⟨pinned ++ [xfer], by simp [split], ?_, same, ?_⟩
    · rw [← Multiset.coe_add, Multiset.coe_singleton, Multiset.add_comm (↑pinned) {xfer},
        Multiset.singleton_add, Multiset.cons_add]
      exact kept.pin found
    · simpa only [KeepsStatus, RefHeap.object?_ref] using keeps
  · refine ⟨[], rfl, ?_, rfl, .refl _ _⟩
    rwa [Multiset.coe_nil, Multiset.zero_add]

/-- A transfer is queued, or it has ended. -/
def QueuedOrEnded (state : Transfers) (xfer : XferId) : Prop :=
  (∃ requestId, (requestId, xfer) ∈ state.outgoing) ∨
    ∀ object, state.xfers.object? xfer = some object → object.status.isEnded = true

theorem Kept.cancelActive {xfer : XferId} (kept : Kept pins state history) (pinned : xfer ∈ pins)
    (active : state.QueuedOrEnded xfer) :
    (cancelActive purple xfer).Ensures state history fun _ next shown =>
      Kept pins next shown ∧ next.outgoing = state.outgoing.filter (·.2 ≠ xfer) ∧
        next.connection.isSome = state.connection.isSome ∧
        (∀ other, other ≠ xfer → next.xfers.object? other = state.xfers.object? other) ∧
        ∀ object, next.xfers.object? xfer = some object → object.status.isEnded = true := by
  rcases kept.sound.balanced.exists_object (Multiset.mem_add.mpr (Or.inr pinned)) with
    ⟨object, found⟩
  rw [Transfers.cancelActive, ensures_bind, ensures_derefXfer found]
  have running := @Sound.running _ _ xfer kept.sound
  cases ended : object.status.isEnded with
  | false =>
      have owned : object.status.isOwned = true := by grind [QueuedOrEnded, XferStatus.isOwned]
      rw [Bool.not_false, if_pos rfl]
      apply (kept.cancel found owned (Or.inl rfl)).mono
      intro _ next shown cancelled
      rcases cancelled with ⟨kept, others, self, outgoing, connected, _⟩
      refine ⟨kept, outgoing, connected, others, ?_⟩
      intro after isAfter
      rw [(self after isAfter).2]
      rfl
  | true =>
      rw [Bool.not_true, if_neg (by simp), ensures_pure]
      refine ⟨kept, ?_, rfl, fun _ _ => rfl, by grind⟩
      symm
      apply List.filter_eq_self.mpr
      grind [XferStatus.isEnded]

theorem Kept.cancelAll {active : List XferId} (kept : Kept (↑active + pins) state history)
    (queued : ∀ xfer, xfer ∈ active ↔ ∃ requestId, (requestId, xfer) ∈ state.outgoing)
    (unqueued : spared ∉ active) :
    (forEach (Transfers.cancelActive purple) active).Ensures state history fun _ next shown =>
      Kept (↑active + pins) next shown ∧ next.outgoing = [] ∧
        next.connection.isSome = state.connection.isSome ∧ KeepsStatus spared state next := by
  -- The invariant of the loop: only transfers that are still to come are queued.
  apply (ensures_forEach (fun rest next shown =>
    (∀ xfer ∈ rest, xfer ∈ active ∧ next.QueuedOrEnded xfer) ∧
    (∀ requestId xfer, (requestId, xfer) ∈ next.outgoing → xfer ∈ rest) ∧
    Kept (↑active + pins) next shown ∧ next.connection.isSome = state.connection.isSome ∧
    KeepsStatus spared state next) ?_ active ?_).mono
  · intro _ next shown holds
    rcases holds with ⟨_, none, kept, same⟩
    refine ⟨kept, List.eq_nil_iff_forall_not_mem.mpr ?_, same⟩
    grind
  · intro xfer later next shown holds
    rcases holds with ⟨isActive, remaining, kept, same, keeps⟩
    rcases isActive xfer List.mem_cons_self with ⟨member, cancellable⟩
    apply (kept.cancelActive (Multiset.mem_add.mpr (Or.inl member)) cancellable).mono
    intro _ reached final cancelled
    rcases cancelled with ⟨kept, outgoing, connected, others, ended⟩
    refine ⟨?_, by grind, kept, connected.trans same, ?_⟩
    · grind [QueuedOrEnded]
    · have different : spared ≠ xfer := fun isXfer => unqueued (isXfer ▸ member)
      grind [KeepsStatus]
  · exact ⟨fun xfer member => ⟨member, Or.inl ((queued xfer).mp member)⟩,
      fun requestId xfer member => (queued xfer).mpr ⟨requestId, member⟩, kept, rfl, .refl _ _⟩

theorem keepsStatus_unref (xfer : XferId) :
    KeepsStatus spared state { state with xfers := state.xfers.unref xfer } :=
  fun after isAfter => ⟨after, RefHeap.object?_of_unref isAfter, rfl⟩

theorem Kept.unpinAll {active : List XferId} (kept : Kept (↑active + pins) state history) :
    (forEach purple.unref active).Ensures state history fun _ next shown =>
      Kept pins next shown ∧ next.connection = state.connection ∧
        KeepsStatus spared state next := by
  apply (ensures_forEach (fun rest next shown =>
    Kept (↑rest + pins) next shown ∧ next.connection = state.connection ∧
      KeepsStatus spared state next) ?_ active ?_).mono
  · intro _ next shown holds
    rwa [Multiset.coe_nil, Multiset.zero_add] at holds
  · intro xfer later next shown holds
    rcases holds with ⟨kept, same, keeps⟩
    rw [← Multiset.cons_coe, Multiset.cons_add] at kept
    exact kept.sound.ensures_unref.mpr
      ⟨kept.unpin, same, keeps.trans (keepsStatus_unref xfer)⟩
  · exact ⟨kept, rfl, .refl _ _⟩

theorem ensures_disconnect {post : Unit → Transfers → List TransferEntry → Prop}
    {context : ContextId} {attachment : OutgoingAttachment}
    (found : state.contexts context = some attachment) :
    Program.Ensures (do
        let attachment ← derefContext context
        setContext context { attachment with connected := false }
        signalOutgoingAttachmentDestroy context) state history post ↔
      post () { state with contexts := Function.update state.contexts context none } history := by
  rw [ensures_bind, ensures_derefContext found, ensures_bind, ensures_setContext found]
  rw [ensures_destroy (by exact Function.update_self _ _ _), Function.update_idem]

/-- The walk finds the one transfer that points to the context. -/
theorem ensures_unlinkXfer {context : ContextId}
    {post : Unit → Transfers → List TransferEntry → Prop}
    (cut : ∀ xfer object, state.xfers.object? xfer = some object → object.data = some context →
      post () { state with xfers := state.xfers.set xfer { object with data := none } } history)
    {all : List XferId} (exist : ∀ xfer ∈ all, ∃ object, state.xfers.object? xfer = some object)
    (none : (∀ xfer ∈ all, ¬state.Points xfer context) → post () state history) :
    (unlinkXfer context all).Ensures state history post := by
  induction all with
  | nil => exact ensures_pure.mpr (none (by simp))
  | cons xfer later induction =>
      rcases exist xfer List.mem_cons_self with ⟨object, found⟩
      rw [unlinkXfer, ensures_bind, ensures_derefXfer found]
      split
      next data =>
        rw [ensures_setXfer found]
        exact cut xfer object found data
      next other =>
        apply induction (fun after member => exist after (List.mem_cons_of_mem _ member))
        intro notLater
        apply none
        grind [Points]

theorem Sound.ensures_detach {ending : Option XferId} (sound : Sound pins ending state)
    {next : Transfers} (xfers : next.xfers = state.xfers)
    (nextXfer : next.nextXfer = state.nextXfer) {context : ContextId}
    {attachment : OutgoingAttachment} (isContext : next.contexts context = some attachment)
    {post : Unit → Transfers → List TransferEntry → Prop}
    (cut : ∀ xfer object, state.xfers.object? xfer = some object → object.data = some context →
      post () { next with
        xfers := state.xfers.set xfer { object with data := none }
        contexts := Function.update next.contexts context none } history)
    (none : (∀ xfer, ¬state.Points xfer context) →
      post () { next with contexts := Function.update next.contexts context none } history) :
    (signalOutgoingAttachmentDetach purple context).Ensures next history post := by
  rw [signalOutgoingAttachmentDetach, ensures_bind, ensures_read, ensures_bind]
  apply ensures_unlinkXfer _ fun xfer => purple.exists_of_getAll
  · intro nobody
    refine (ensures_disconnect isContext).mpr (none ?_)
    intro xfer points
    rcases points with ⟨object, found, data⟩
    rw [← xfers] at found
    refine nobody xfer (purple.getAll_of_exists ?_ found) ⟨object, found, data⟩
    rw [nextXfer]
    exact sound.lt_nextXfer (xfers ▸ found)
  · intro xfer object found data
    rw [xfers] at found ⊢
    exact (ensures_disconnect (by exact isContext)).mpr (cut xfer object found data)

/-- No transfer is queued any more, so a context can go with nothing but its own transfer. -/
theorem Kept.closeContext (kept : Kept pins state history) {context : ContextId}
    (isConnection : state.connection = some connection)
    (unqueued : connection.outgoingAttachments = [])
    (member : context ∈ connection.outgoingAttachmentContexts) :
    (closeContext purple context).Ensures state history fun _ next shown =>
      Kept pins next shown ∧ KeepsStatus spared state next ∧ next.connection = some
        { connection with
          outgoingAttachmentContexts :=
            connection.outgoingAttachmentContexts.filter (· ≠ context) } := by
  have sound := kept.sound
  have listed := (sound.listed connection isConnection).2 context member
  rcases Option.isSome_iff_exists.mp listed with ⟨attachment, isContext⟩
  rw [Transfers.closeContext, ensures_bind, removeContext, ensures_setConnection isConnection]
  refine sound.ensures_detach (by rfl) (by rfl) (by exact isContext) ?_ ?_
  · intro xfer object found data
    have follows : Follows state xfer object context attachment connection :=
      ⟨found, data, isContext, isConnection⟩
    have objects := follows.object?_released sound (Or.inl unqueued)
    have closed : Kept pins follows.released history := by
      refine ⟨follows.sound_released sound.weaken (Or.inl unqueued),
        kept.told.silent (over_of_statuses (by exact Nat.le_refl _) (by grind)) ?_⟩
      rw [follows.outgoing_released sound, outgoing_eq isConnection, unqueued]
      rfl
    refine ⟨?_, ?_, by rfl⟩
    · simpa [Follows.released, unqueued] using closed
    · have changes := RefHeap.object?_set found { object with data := none }
      grind [KeepsStatus]
  · intro nobody
    refine ⟨kept.sameXfers ?_ (by rfl) (by rfl) (outgoing_eq isConnection).symm,
      .refl _ _, by rfl⟩
    refine sound.withoutContext isConnection (by rfl) ?_ ?_ ?_ ?_ (fun _ => id)
    · have balanced := sound.balanced
      rw [holders, outgoing_eq isConnection] at balanced
      exact balanced
    · intro other pointee points
      exact ⟨fun same => nobody other (same ▸ points), points⟩
    · simp [unqueued]
    · simp [unqueued]

theorem Kept.closeContexts (kept : Kept pins state history) {contexts : List ContextId}
    (isConnection : state.connection = some connection)
    (unqueued : connection.outgoingAttachments = [])
    (all : contexts.Perm connection.outgoingAttachmentContexts) :
    (forEach (Transfers.closeContext purple) contexts).Ensures state history fun _ next shown =>
      Kept pins next shown ∧ KeepsStatus spared state next ∧
        ∃ final, next.connection = some final ∧
          final.outgoingAttachments = [] ∧ final.outgoingAttachmentContexts = [] := by
  have distinct := (kept.sound.listed connection isConnection).1
  -- The invariant of the loop: the contexts that are left are those still to come.
  apply (ensures_forEach (fun rest next shown => rest.Nodup ∧ Kept pins next shown ∧
    KeepsStatus spared state next ∧
    ∃ final, next.connection = some final ∧ final.outgoingAttachments = [] ∧
      ∀ context, context ∈ final.outgoingAttachmentContexts ↔ context ∈ rest) ?_ contexts ?_).mono
  · intro _ next shown holds
    rcases holds with ⟨_, kept, keeps, final, isFinal, noneQueued, remaining⟩
    refine ⟨kept, keeps, final, isFinal, noneQueued, List.eq_nil_iff_forall_not_mem.mpr ?_⟩
    grind
  · intro context later next shown holds
    rcases holds with ⟨nodup, kept, keeps, final, isFinal, noneQueued, remaining⟩
    have parts := List.nodup_cons.mp nodup
    have member := (remaining context).mpr List.mem_cons_self
    apply (kept.closeContext isFinal noneQueued member).mono
    intro _ reached last closed
    refine ⟨parts.2, closed.1, keeps.trans closed.2.1, _, closed.2.2, noneQueued, ?_⟩
    grind
  · exact ⟨all.nodup_iff.mpr distinct, kept, .refl _ _, connection, isConnection, unqueued,
      fun context => all.mem_iff.symm⟩

theorem Kept.freeConnection (kept : Kept pins state history)
    (isConnection : state.connection = some connection)
    (unqueued : connection.outgoingAttachments = [])
    (empty : connection.outgoingAttachmentContexts = []) :
    (signalConnectionFree purple).Ensures state history fun _ next shown =>
      Kept pins next shown ∧ next.connection = none ∧ KeepsStatus spared state next := by
  have registered := kept.sound.registered
  have noneQueued : state.outgoing = [] := by rw [outgoing_eq isConnection, unqueued]
  have balanced := kept.sound.balanced
  rw [holders, noneQueued] at balanced
  simp only [signalConnectionFree, ensures_bind, ensures_derefConnection isConnection,
    ensures_setConnection isConnection, unqueued, forEach, ensures_pure]
  refine (ensures_derefConnection (by rfl)).mpr (ensures_write.mpr ⟨kept.sameXfers ?_ (by rfl)
    (by rfl) (by exact noneQueued.symm), by rfl, .refl _ _⟩)
  refine { kept.sound with
    balanced := balanced, registered := ?_, listed := ?_, keys := List.nodup_nil, queued := ?_ }
  · grind
  · grind
  · intro requestId xfer member
    cases member

/-- A transfer that is not queued is only cut off from its context. -/
theorem Kept.close (kept : Kept pins state history) {orders : CloseOrders}
    (isConnection : state.connection = some connection)
    (unqueued : ∀ requestId, (requestId, spared) ∉ state.outgoing) :
    (signalClose purple orders).Ensures state history fun _ next shown =>
      Kept pins next shown ∧ next.connection = none ∧ KeepsStatus spared state next := by
  have closing : Kept pins { state with connection := some { connection with closing := true } }
      history :=
    kept.sameXfers (kept.sound.withConnection isConnection rfl rfl (UInt64.le_refl _)) rfl rfl
      (outgoing_eq isConnection).symm
  have active : ∀ xfer,
      xfer ∈ (orders.transfers.list connection.outgoingAttachments).map Prod.snd ↔
        ∃ requestId, (requestId, xfer) ∈ connection.outgoingAttachments := by
    intro xfer
    rw [((orders.transfers.perm _).map Prod.snd).mem_iff]
    simp
  rw [outgoing_eq isConnection] at unqueued
  rw [signalClose, ensures_bind, ensures_setConnection isConnection, ensures_bind]
  refine (ensures_derefConnection (by rfl)).mpr ?_
  rw [ensures_bind]
  apply (closing.pinAll fun xfer member => (active xfer).mp member).mono
  intro _ next shown pinned
  rcases pinned with ⟨pinned, sameConnection, keepsPinned⟩
  have spares : spared ∉ (orders.transfers.list connection.outgoingAttachments).map Prod.snd :=
    fun member => ((active spared).mp member).elim unqueued
  rw [ensures_bind]
  apply (pinned.cancelAll (by rwa [outgoing_eq sameConnection]) spares).mono
  intro _ next shown cancelled
  rcases cancelled with ⟨cancelled, noneQueued, connected, keepsCancelled⟩
  rw [sameConnection] at connected
  rcases Option.isSome_iff_exists.mp connected with ⟨final, isOpen⟩
  rw [outgoing_eq isOpen] at noneQueued
  rw [ensures_bind]
  apply cancelled.unpinAll.mono
  intro _ next shown unpinned
  rcases unpinned with ⟨unpinned, stillConnected, keepsUnpinned⟩
  have isFinal := stillConnected.trans isOpen
  rw [ensures_bind, ensures_derefConnection isFinal, ensures_bind]
  apply (unpinned.closeContexts isFinal noneQueued (orders.contexts.perm _)).mono
  intro _ next shown closed
  rcases closed with ⟨closed, keepsClosed, last, isLast, noneLeft, empty⟩
  apply (closed.freeConnection isLast noneLeft empty).mono
  intro _ next shown freed
  rcases freed with ⟨freed, gone, keepsFreed⟩
  exact ⟨freed, gone, (((KeepsStatus.trans keepsPinned keepsCancelled).trans
    keepsUnpinned).trans keepsClosed).trans keepsFreed⟩

end Close

end Transfers

end SignalPurple
