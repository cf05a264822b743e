import SignalPurple.Adapter.Transfers.Close

/-! # The start of a transfer

`signal_outgoing_attachment_init`: the transfer is pinned while it is started, since the start
may cancel it or close the account, and then its request is queued or it is cancelled.
-/

namespace SignalPurple

namespace Transfers

open Program

section Start

variable {purple : XferLibrary} {state : Transfers} {pins : Multiset XferId}
  {history : List TransferEntry} {connection : TransferConnection} {xfer : XferId} {object : Xfer} {context : ContextId}
  {attachment : OutgoingAttachment}

theorem Sound.renumber (sound : Sound pins none state)
    (follows : Follows state xfer object context attachment connection)
    (unqueued : ∀ requestId, (requestId, xfer) ∉ state.outgoing)
    {number nextNumber : UInt64} {later : Option TransferConnection}
    (isLater : later = some { connection with nextRequestId := nextNumber })
    (below : number = 0 ∨ number < nextNumber) (numbers : connection.nextRequestId ≤ nextNumber)
    (fresh : number = 0 ∨ connection.nextRequestId ≤ number) :
    Sound pins none
      { state with
        contexts := Function.update state.contexts context
          (some { attachment with requestId := number })
        connection := later } := by
  have points := follows.points
  rcases follows with ⟨_, _, isContext, isConnection⟩
  have contexts := Function.update_apply state.contexts context
    (some { attachment with requestId := number })
  have sameOutgoing : state.outgoing = { state with
      contexts := Function.update state.contexts context
        (some { attachment with requestId := number })
      connection := later }.outgoing := by
    rw [outgoing_eq isConnection, isLater]
    rfl
  rcases sound with ⟨balanced, linked, exclusive, registered, listed, distinct, keys, queued,
    freshXfer, freshContext⟩
  have unused : ∀ other found, state.contexts other = some found →
      number = found.requestId → number = 0 := by
    intro other found isFound same
    have before := registered other found isFound
    grind [UInt64.lt_of_lt_of_le, UInt64.lt_irrefl]
  rw [holders, sameOutgoing] at balanced
  refine ⟨balanced, ?_, exclusive, ?_, ?_, ?_, sameOutgoing ▸ keys, ?_, freshXfer, ?_⟩
  · intro other pointee reached
    have before := linked other pointee reached
    grind
  · intro other found isFound
    grind [UInt64.lt_of_lt_of_le]
  · grind
  · grind
  · rw [← sameOutgoing]
    intro requestId other member
    have before := queued requestId other member
    have alone := exclusive other xfer context
    grind [Queued, Points]
  · grind

theorem Sound.enqueue (sound : Sound (xfer ::ₘ pins) none state)
    (follows : Follows state xfer object context attachment connection)
    (started : object.status = .started) (nonzero : attachment.requestId ≠ 0)
    (unqueued : ∀ requestId, (requestId, xfer) ∉ state.outgoing) :
    Sound pins none
      { state with
        connection := some
          { connection with
            outgoingAttachments :=
              connection.outgoingAttachments ++ [(attachment.requestId, xfer)] } } := by
  have isXfer := @Follows.member_iff _ _ _ _ _ _ _ _ follows sound
  rcases follows with ⟨found, data, isContext, connected⟩
  rcases sound with ⟨balanced, linked, exclusive, registered, listed, distinct, keys, queued,
    freshXfer, freshContext⟩
  rw [outgoing_eq connected] at keys queued unqueued
  rw [holders, outgoing_eq connected, Multiset.add_cons, ← Multiset.cons_add,
    Multiset.cons_coe] at balanced
  have moved : (xfer :: (state.uiHeld ++ connection.outgoingAttachments.map Prod.snd)).Perm
      (state.uiHeld ++
        (connection.outgoingAttachments ++ [(attachment.requestId, xfer)]).map Prod.snd) := by
    rw [List.map_append, ← List.append_assoc]
    exact (List.perm_append_singleton _ _).symm
  rw [Multiset.coe_eq_coe.mpr moved] at balanced
  refine ⟨balanced, linked, exclusive, ?_, ?_, distinct, ?_, ?_, freshXfer, freshContext⟩
  · grind
  · grind
  · simp only [outgoing, Option.elim_some, List.map_append, List.map_cons, List.map_nil]
    refine List.Nodup.append keys (List.nodup_singleton _) (List.disjoint_singleton.mpr ?_)
    grind
  · intro requestId other member
    rcases List.mem_append.mp member with earlier | new
    · exact queued requestId other earlier
    · cases List.mem_singleton.mp new
      exact ⟨nonzero, object, context, attachment, found, data, isContext, rfl, Or.inl started⟩

theorem Sound.ensures_insertOutgoing (sound : Sound pins none state)
    (follows : Follows state xfer object context attachment connection)
    (unqueued : ∀ requestId, (requestId, xfer) ∉ state.outgoing)
    {post : Unit → Transfers → List TransferEntry → Prop}
    (holds : post ()
      { state with
        connection := some
          { connection with
            outgoingAttachments :=
              connection.outgoingAttachments ++ [(attachment.requestId, xfer)] } } history) :
    (insertOutgoing purple attachment.requestId xfer).Ensures state history post := by
  rw [insertOutgoing, ensures_bind, removeOutgoing, ensures_bind,
    ensures_derefConnection follows.connected]
  cases found : connection.outgoingAttachments.lookup attachment.requestId with
  | none =>
      simp only [ensures_pure]
      rwa [ensures_setConnection follows.connected]
  | some other =>
      have member := HashTable.mem_of_lookup found
      rw [← outgoing_eq follows.connected] at member
      have isXfer := sound.unique follows.points follows.isContext rfl member
      exact absurd (isXfer ▸ member) (unqueued _)

/-! ## What follows the start -/

section Queue

variable (kept : Kept (xfer ::ₘ pins) state history)
  (follows : Follows state xfer object context attachment connection)
  (unqueued : ∀ requestId, (requestId, xfer) ∉ state.outgoing)

include kept

theorem Kept.queueStarted_of_cut
    (cut : ∀ object, state.xfers.object? xfer = some object → object.data = none)
    (accepts : Bool) :
    (queueStarted purple xfer accepts).Ensures state history fun _ => Kept pins := by
  have held : xfer ∈ state.holders + xfer ::ₘ pins :=
    Multiset.mem_add.mpr (Or.inr (Multiset.mem_cons_self _ _))
  rcases kept.sound.balanced.exists_object held with ⟨object, found⟩
  rw [queueStarted, ensures_bind, ensures_derefXfer found, cut object found]
  exact kept.ensures_unpin

include follows unqueued

theorem Kept.accept (started : object.status = .started) (nonzero : attachment.requestId ≠ 0) :
    (acceptAttachment purple xfer attachment.requestId).Ensures state history fun _ => Kept pins := by
  have pinned := kept.sound.pin follows.found
  have stillFollows : Follows { state with xfers := state.xfers.ref xfer } xfer object context
      attachment connection :=
    ⟨by rw [RefHeap.object?_ref]; exact follows.found, follows.data, follows.isContext,
      follows.connected⟩
  rw [acceptAttachment, ensures_bind, ensures_emit, ensures_bind,
    ensures_ref follows.found, ensures_bind]
  apply pinned.ensures_insertOutgoing stillFollows unqueued
  refine Kept.ensures_unpin ⟨pinned.enqueue stillFollows started nonzero unqueued,
    kept.told.queued ?_ ?_⟩
  · refine over_of_statuses (by exact Nat.le_refl _) ?_
    simp only [RefHeap.object?_ref]
    grind
  · rw [outgoing_eq follows.connected]
    rfl

theorem Kept.reject (owned : object.status.isOwned = true) :
    (rejectAttachment purple xfer context attachment).Ensures state history fun _ => Kept pins := by
  have renumbered := kept.sound.renumber follows unqueued follows.connected (Or.inl rfl)
    (UInt64.le_refl _) (Or.inl rfl)
  have renumbers := kept.sameXfers renumbered rfl rfl rfl
  rw [rejectAttachment, ensures_bind, ensures_setContext follows.isContext, ensures_bind]
  apply (renumbers.cancelWithError _ (by exact follows.found) owned (Or.inl rfl)).mono
  intro _ next shown cancelled
  exact cancelled.ensures_unpin

theorem Kept.queueStarted (started : object.status = .started) (accepts : Bool) :
    (queueStarted purple xfer accepts).Ensures state history fun _ => Kept pins := by
  have isConnected := (kept.sound.registered context attachment follows.isContext).1
  rw [Transfers.queueStarted, ensures_bind, ensures_derefXfer follows.found]
  simp only [follows.data]
  rw [queueAttachment, ensures_bind, ensures_derefContext follows.isContext,
    if_neg (by simp [isConnected])]
  split
  next accepted =>
    rcases (Bool.and_eq_true _ _).mp accepted with ⟨_, nonzero⟩
    exact kept.accept follows unqueued started (by simpa using nonzero)
  next => exact kept.reject follows unqueued (by rw [started, XferStatus.isOwned])

end Queue

/-! ## The start -/

theorem Kept.started (kept : Kept pins state history)
    (found : state.xfers.object? xfer = some object) (waiting : object.status = .notStarted) :
    Kept pins { state with xfers := state.xfers.set xfer { object with status := .started } }
      history := by
  have changes := RefHeap.object?_set found { object with status := .started }
  refine ⟨kept.sound.withObject found (by rfl) ?_ fun _ => rfl,
    kept.told.silent (over_of_statuses (by exact Nat.le_refl _) ?_) rfl⟩
  · simp [Xfer.own, waiting, XferStatus.isOwned]
  · grind [XferStatus.isEnded]

/-- Without a connection there is no context, so no transfer points to one. -/
theorem Sound.cut_of_closed (sound : Sound pins none state) (closed : state.connection = none) :
    ∀ object, state.xfers.object? xfer = some object → object.data = none := by
  intro object found
  cases data : object.data with
  | none => rfl
  | some context =>
      rcases sound.follows found data with ⟨attachment, connection, follows⟩
      rw [follows.connected] at closed
      cases closed

theorem Kept.open (kept : Kept (xfer ::ₘ pins) state history)
    (found : state.xfers.object? xfer = some object) (started : object.status = .started)
    (opens accepts : Bool)
    (queue : (Transfers.queueStarted purple xfer accepts).Ensures state history
      fun _ => Kept pins) :
    Program.Ensures (if opens then pure () else cancelXfer purple .cancelLocal xfer) state history
      fun _ next shown =>
        (Transfers.queueStarted purple xfer accepts).Ensures next shown fun _ => Kept pins := by
  cases opens with
  | true => exact ensures_pure.mpr queue
  | false =>
      apply (kept.cancel found (by rw [started, XferStatus.isOwned]) (Or.inl rfl)).mono
      intro _ next shown cancelled
      exact cancelled.1.queueStarted_of_cut
        (fun after isAfter => (cancelled.2.self after isAfter).1) accepts

theorem Kept.start (kept : Kept (xfer ::ₘ pins) state history)
    (follows : Follows state xfer object context attachment connection)
    (waiting : object.status = .notStarted) (closes : Option CloseOrders) (opens accepts : Bool) :
    Program.Ensures (do
        purple.start (outgoingCallbacks purple) (statusHandlers purple closes) opens xfer
        Transfers.queueStarted purple xfer accepts)
      state history fun _ => Kept pins := by
  have unqueued := kept.sound.unqueued_of_waiting follows.found waiting
  have isStarted : (state.xfers.set xfer { object with status := .started }).object? xfer =
      some { object with status := .started } := by
    rw [RefHeap.object?_set follows.found, if_pos rfl]
  have nowFollows : Follows
      { state with xfers := state.xfers.set xfer { object with status := .started } } xfer
      { object with status := .started } context attachment connection :=
    ⟨isStarted, follows.data, follows.isContext, follows.connected⟩
  have starts := kept.started follows.found waiting
  rw [ensures_bind, ensures_congr (purple.start_eq _ _ opens follows.found waiting), ensures_bind,
    ensures_changeStatus_of_not_ended follows.found rfl, ensures_bind]
  cases closes with
  | none =>
      rw [statusHandlers, Option.elim_none, ensures_pure]
      exact starts.open isStarted rfl opens accepts
        (starts.queueStarted nowFollows unqueued rfl accepts)
  | some orders =>
      -- The close only cuts the transfer off: it still runs, and the pin keeps it.
      rw [statusHandlers, Option.elim_some]
      apply (starts.close (by exact follows.connected) unqueued).mono
      intro _ next shown closed
      rcases closed with ⟨closed, gone, keeps⟩
      have held : xfer ∈ next.holders + xfer ::ₘ pins :=
        Multiset.mem_add.mpr (Or.inr (Multiset.mem_cons_self _ _))
      rcases closed.sound.balanced.exists_object held with ⟨after, isAfter⟩
      rcases keeps after isAfter with ⟨before, isBefore, same⟩
      have running : after.status = .started := by
        rw [← same]
        grind
      exact closed.open isAfter running opens accepts
        (closed.queueStarted_of_cut (closed.sound.cut_of_closed gone) accepts)

/-- The numbers of a connection have not come to their end. -/
def HasNumbers (state : Transfers) : Prop :=
  ∀ connection, state.connection = some connection →
    connection.nextRequestId < connection.nextRequestId + 1

theorem Kept.startAttachment (kept : Kept pins state history)
    (follows : Follows state xfer object context attachment connection)
    (waiting : object.status = .notStarted)
    (number : connection.nextRequestId < connection.nextRequestId + 1) (size : Nat)
    (outcome : InitOutcome) :
    (startAttachment purple xfer context attachment connection size outcome).Ensures state history
      fun _ => Kept pins := by
  have sized : Sound pins none
      { state with xfers := state.xfers.set xfer { object with size } } :=
    kept.sound.withObject follows.found rfl rfl id
  have changes := RefHeap.object?_set follows.found { object with size }
  have isSized := changes xfer
  rw [if_pos rfl] at isSized
  have sizedFollows : Follows
      { state with xfers := state.xfers.set xfer { object with size } } xfer
      { object with size } context attachment connection :=
    ⟨isSized, follows.data, follows.isContext, follows.connected⟩
  have numbered := sized.renumber sizedFollows (sized.unqueued_of_waiting isSized waiting) rfl
    (Or.inr number) (UInt64.le_of_lt number) (Or.inr (UInt64.le_refl _))
  have pinned := numbered.pin (by exact isSized)
  rw [Transfers.startAttachment, ensures_bind,
    ensures_of_eq (purple.setSize_eq size follows.found), List.append_nil, ensures_bind]
  refine (ensures_setContext (by exact follows.isContext)).mpr ?_
  rw [ensures_bind]
  refine (ensures_setConnection (by exact follows.connected)).mpr ?_
  rw [ensures_bind]
  refine (ensures_ref (by exact isSized)).mpr ?_
  refine @Kept.start purple _ _ _ _ xfer { object with size } context _ ⟨pinned, kept.told.silent
    (over_of_statuses (by exact Nat.le_refl _) ?_) ?_⟩ ⟨?_, follows.data,
      Function.update_self _ _ _, rfl⟩ waiting _ _ _
  · simp only [RefHeap.object?_ref, changes]
    grind [follows.found]
  · exact (outgoing_eq follows.connected).symm
  · rw [RefHeap.object?_ref]
    exact isSized

theorem Kept.init (kept : Kept pins state history)
    (found : state.xfers.object? xfer = some object) (waiting : object.status = .notStarted)
    (numbers : state.HasNumbers) (outcome : InitOutcome) :
    (signalOutgoingAttachmentInit purple xfer outcome).Ensures state history fun _ => Kept pins := by
  have owned : object.status.isOwned = true := by rw [waiting, XferStatus.isOwned]
  have cancels : (cancelXfer purple .cancelLocal xfer).Ensures state history fun _ => Kept pins :=
    (kept.cancel found owned (Or.inl rfl)).mono fun _ _ _ cancelled => cancelled.1
  rw [signalOutgoingAttachmentInit, ensures_bind, ensures_derefXfer found]
  cases data : object.data with
  | none => exact cancels
  | some context =>
      rcases kept.sound.follows found data with ⟨attachment, connection, follows⟩
      simp only
      rw [ensures_bind, ensures_derefContext follows.isContext]
      split
      · exact cancels
      rw [ensures_bind, ensures_derefConnection follows.connected]
      split
      · exact cancels
      split
      · exact kept.cancelWithError _ found owned (Or.inl rfl)
      cases outcome.inspected with
      | error error => exact kept.cancelWithError _ found owned (Or.inl rfl)
      | ok size =>
          exact kept.startAttachment follows waiting (numbers _ follows.connected) size _

end Start

end Transfers

end SignalPurple
