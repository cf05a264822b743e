import SignalPurple.Adapter.Transfers.Account
import SignalPurple.Foundation.History

/-! # What calls show

What an observer has seen of the transfers agrees with where they are. The calls that end or
drop one transfer keep this together with the account.
-/

namespace SignalPurple

namespace Transfers

open Program

/-! ## What was shown -/

def Over (state : Transfers) (xfer : XferId) : Prop :=
  xfer < state.nextXfer ∧
    ∀ object, state.xfers.object? xfer = some object → object.status.isEnded = true

/-- A transfer ends once, and one that is completed was queued before the core reported its
request. -/
def EndJustified (before : List TransferEntry) (entry : TransferEntry) : Prop :=
  ∀ xfer status, entry = .ended xfer status → (∀ earlier, .ended xfer earlier ∉ before) ∧
    (status = .done → ∃ requestId, .queued requestId xfer ∈ before ∧ .sent requestId ∈ before)

/-- What was shown so far agrees with the transfers. -/
structure Told (state : Transfers) (history : List TransferEntry) : Prop where
  ended : History.Justified EndJustified history
  past : ∀ xfer status, .ended xfer status ∈ history → state.Over xfer
  table : ∀ requestId xfer, (requestId, xfer) ∈ state.outgoing → .queued requestId xfer ∈ history
  /-- A transfer that the core took has ended unless the connection still finds it. -/
  found : ∀ requestId xfer, .queued requestId xfer ∈ history →
    (∃ status, .ended xfer status ∈ history) ∨ (requestId, xfer) ∈ state.outgoing

/-- The account and what was shown, with nothing being ended. -/
structure Kept (pins : Multiset XferId) (state : Transfers) (history : List TransferEntry) :
    Prop where
  sound : Sound pins none state
  told : Told state history

section Told

variable {state next : Transfers} {history : List TransferEntry} {xfer : XferId}

theorem over_of_statuses (nextXfer : state.nextXfer ≤ next.nextXfer)
    (statuses : ∀ xfer after, xfer < state.nextXfer → next.xfers.object? xfer = some after →
      ∃ before, state.xfers.object? xfer = some before ∧
        (before.status.isEnded = true → after.status.isEnded = true)) :
    ∀ xfer, state.Over xfer → next.Over xfer := by
  grind [Over]

variable (told : Told state history)

include told

theorem Told.quiet {entries : List TransferEntry}
    (past : ∀ xfer, state.Over xfer → next.Over xfer) (outgoing : next.outgoing = state.outgoing)
    (unended : ∀ xfer status, .ended xfer status ∉ entries)
    (unqueued : ∀ requestId xfer, .queued requestId xfer ∉ entries) :
    Told next (history ++ entries) := by
  rcases told with ⟨ended, isOver, table, found⟩
  refine ⟨History.justified_append_of_forall ended ?_, by grind, by grind, by grind⟩
  grind [EndJustified]

theorem Told.silent (past : ∀ xfer, state.Over xfer → next.Over xfer)
    (outgoing : next.outgoing = state.outgoing) : Told next history := by
  have same := @Told.quiet _ _ _ told [] past outgoing (by simp) (by simp)
  rwa [List.append_nil] at same

theorem Told.finished {object : Xfer} {status : XferStatus}
    (finished : Finished xfer status state next) (ends : status.isEnded = true)
    (found : state.xfers.object? xfer = some object) (owned : object.status.isOwned = true)
    (known : xfer < state.nextXfer)
    (sent : status = .done → ∃ requestId, .sent requestId ∈ history ∧
      (requestId, xfer) ∈ state.outgoing) : Told next (history ++ [.ended xfer status]) := by
  have unended := XferStatus.isEnded_of_owned owned
  rcases finished with ⟨others, self, outgoing, _, nextXfer⟩
  rcases told with ⟨ended, past, table, isFound⟩
  refine ⟨History.justified_concat ended ?_, by grind [Over], by grind, ?_⟩
  · grind [EndJustified, Over]
  · intro requestId other queued
    by_cases same : other = xfer
    · grind
    · grind

theorem Told.queued {requestId : UInt64} (past : ∀ other, state.Over other → next.Over other)
    (outgoing : next.outgoing = state.outgoing ++ [(requestId, xfer)]) :
    Told next (history ++ [.queued requestId xfer]) := by
  rcases told with ⟨ended, isOver, table, found⟩
  refine ⟨History.justified_concat ended ?_, by grind, by grind, by grind⟩
  nofun

end Told

/-! ## Calls that end one transfer -/

section Ends

variable {purple : XferLibrary} {state : Transfers} {pins : Multiset XferId} {xfer : XferId}
  {object : Xfer} {history : List TransferEntry} {requestId : UInt64} {status : XferStatus}

theorem Sound.lt_nextXfer {ending : Option XferId} (sound : Sound pins ending state)
    (found : state.xfers.object? xfer = some object) : xfer < state.nextXfer := by
  have fresh := sound.freshXfer xfer
  grind

variable (kept : Kept pins state history)

include kept

theorem Kept.shows {entries : List TransferEntry}
    (unended : ∀ xfer status, .ended xfer status ∉ entries)
    (unqueued : ∀ requestId xfer, .queued requestId xfer ∉ entries) :
    Kept pins state (history ++ entries) :=
  ⟨kept.sound, kept.told.quiet (fun _ => id) rfl unended unqueued⟩

theorem Kept.cancel (found : state.xfers.object? xfer = some object)
    (owned : object.status.isOwned = true)
    (cancels : status = .cancelLocal ∨ status = .cancelRemote) :
    (cancelXfer purple status xfer).Ensures state history fun _ next shown =>
      Kept pins next shown ∧ Finished xfer status state next := by
  have ends : status.isEnded = true ∧ status ≠ .done := by
    rcases cancels with rfl | rfl
    · exact ⟨rfl, nofun⟩
    · exact ⟨rfl, nofun⟩
  apply (kept.sound.ensures_cancel found owned cancels).mono
  intro _ next shown cancelled
  rcases cancelled with ⟨after, finished, cancels, rfl⟩
  have told := kept.told.finished finished ends.1 found owned (kept.sound.lt_nextXfer found)
    fun isDone => absurd isDone ends.2
  exact ⟨Kept.shows ⟨after, told⟩ (by simp) (by simp), finished⟩

theorem Kept.cancelWithError (message : String) (found : state.xfers.object? xfer = some object)
    (owned : object.status.isOwned = true)
    (cancels : status = .cancelLocal ∨ status = .cancelRemote) :
    (cancelWithError purple status xfer message).Ensures state history fun _ => Kept pins := by
  rw [Transfers.cancelWithError, ensures_bind, ensures_of_eq (purple.error_eq message found)]
  have shows := @Kept.shows _ _ _ kept [.error xfer message] (by simp) (by simp)
  exact (shows.cancel found owned cancels).mono fun _ _ _ cancelled => cancelled.1

theorem Kept.complete_of_queued (connected : state.connection.isSome)
    (member : (requestId, xfer) ∈ state.outgoing) :
    (signalOutgoingAttachmentComplete purple requestId).Ensures state history fun _ next shown =>
      Kept pins next shown ∧ shown = history ++ [.sent requestId] ++ [.ended xfer .done] := by
  rcases Option.isSome_iff_exists.mp connected with ⟨connection, isConnection⟩
  rcases kept.sound.running member with ⟨object, found, started⟩
  have owned : object.status.isOwned = true := by rw [started, XferStatus.isOwned]
  have keys := kept.sound.keys
  have inTable := member
  rw [outgoing_eq isConnection] at keys inTable
  rw [signalOutgoingAttachmentComplete, ensures_bind, ensures_derefConnection isConnection,
    ensures_bind, ensures_emit, if_pos (kept.sound.queued requestId xfer member).1]
  simp only [HashTable.lookup_of_mem keys inTable]
  have shows := @Kept.shows _ _ _ kept [.sent requestId] (by simp) (by simp)
  apply (shows.sound.ensures_completeXfer found owned).mono
  intro _ next shown completed
  rcases completed with ⟨after, finished, isShown⟩
  refine ⟨⟨after, ?_⟩, isShown⟩
  rw [isShown]
  exact shows.told.finished finished rfl found owned (shows.sound.lt_nextXfer found)
    fun _ => ⟨requestId, by simp, member⟩

theorem Kept.complete (connected : state.connection.isSome) :
    (signalOutgoingAttachmentComplete purple requestId).Ensures state history fun _ => Kept pins := by
  by_cases queued : ∃ xfer, (requestId, xfer) ∈ state.outgoing
  · rcases queued with ⟨xfer, member⟩
    exact (kept.complete_of_queued connected member).mono fun _ _ _ completed => completed.1
  · rcases Option.isSome_iff_exists.mp connected with ⟨connection, isConnection⟩
    have shows := @Kept.shows _ _ _ kept [.sent requestId] (by simp) (by simp)
    rw [signalOutgoingAttachmentComplete, ensures_bind, ensures_derefConnection isConnection,
      ensures_bind, ensures_emit]
    split
    · cases lookup : connection.outgoingAttachments.lookup requestId with
      | none => exact ensures_pure.mpr shows
      | some xfer =>
          have member := HashTable.mem_of_lookup lookup
          rw [← outgoing_eq isConnection] at member
          exact absurd ⟨xfer, member⟩ queued
    · exact ensures_pure.mpr shows

theorem Kept.failed {text : Option String} (connected : state.connection.isSome) :
    (signalOutgoingAttachmentFailed purple requestId text).Ensures state history fun _ => Kept pins := by
  rcases Option.isSome_iff_exists.mp connected with ⟨connection, isConnection⟩
  rw [signalOutgoingAttachmentFailed, ensures_bind, ensures_derefConnection isConnection]
  split
  · cases lookup : connection.outgoingAttachments.lookup requestId with
    | none => exact ensures_pure.mpr kept
    | some xfer =>
        have member := HashTable.mem_of_lookup lookup
        rw [← outgoing_eq isConnection] at member
        rcases kept.sound.running member with ⟨object, found, started⟩
        exact kept.cancelWithError _ found (by rw [started, XferStatus.isOwned]) (Or.inr rfl)
  · exact ensures_pure.mpr kept

/-! ## Calls that drop or take a reference -/

theorem Kept.recount {heap : RefHeap XferId Xfer} {later : Multiset XferId}
    (sound : Sound later none { state with xfers := heap })
    (objects : ∀ other after, heap.object? other = some after →
      state.xfers.object? other = some after) :
    Kept later { state with xfers := heap } history := by
  refine ⟨sound, kept.told.silent (over_of_statuses (by exact Nat.le_refl _) ?_) rfl⟩
  grind

theorem Kept.pin (found : state.xfers.object? xfer = some object) :
    Kept (xfer ::ₘ pins) { state with xfers := state.xfers.ref xfer } history :=
  kept.recount (kept.sound.pin found) (by simp)

omit kept in
theorem Kept.unpin (kept : Kept (xfer ::ₘ pins) state history) :
    Kept pins { state with xfers := state.xfers.unref xfer } history :=
  kept.recount kept.sound.unpin fun _ _ => RefHeap.object?_of_unref

omit kept in
theorem Kept.ensures_unpin (kept : Kept (xfer ::ₘ pins) state history) :
    (purple.unref xfer).Ensures state history fun _ => Kept pins :=
  kept.sound.ensures_unref.mpr kept.unpin

omit kept in
theorem Sound.unqueued_of_waiting (sound : Sound pins none state)
    (found : state.xfers.object? xfer = some object) (waiting : object.status = .notStarted) :
    ∀ requestId, (requestId, xfer) ∉ state.outgoing := by
  intro requestId member
  rcases sound.running member with ⟨before, isBefore, started⟩
  grind

end Ends

section Waiting

variable {purple : XferLibrary} {state next : Transfers} {xfer : XferId} {object : Xfer}
  {history : List TransferEntry} {pins : Multiset XferId} (kept : Kept pins state history)
  (found : state.xfers.object? xfer = some object) (waiting : object.status = .notStarted)

include kept found waiting

theorem Kept.letGo (sound : Sound pins none next)
    (objects : ∀ other after, other ≠ xfer → next.xfers.object? other = some after →
      state.xfers.object? other = some after) (outgoing : next.outgoing = state.outgoing)
    (nextXfer : next.nextXfer = state.nextXfer) : Kept pins next history := by
  refine ⟨sound, kept.told.silent ?_ outgoing⟩
  intro other past
  have different : other ≠ xfer := by
    intro same
    have ended := past.2 object (same ▸ found)
    rw [waiting] at ended
    cases ended
  grind [Over]

theorem Kept.discard :
    (purple.discard xfer).Ensures state history fun _ => Kept pins := by
  have unqueued := kept.sound.unqueued_of_waiting found waiting
  have pinned := (kept.sound.ends found (by rw [waiting]; rfl)
    (by rfl : XferStatus.dropped.isOwned = false)).settle unqueued
  have changes := RefHeap.object?_set found { object with status := .dropped }
  rw [ensures_congr (purple.discard_eq found waiting), ensures_bind,
    ensures_changeStatus_of_not_ended found rfl, pinned.ensures_unref]
  refine kept.letGo found waiting pinned.unpin ?_ rfl rfl
  intro other after different isAfter
  have isBefore := RefHeap.object?_of_unref isAfter
  grind

theorem Kept.denied :
    (purple.requestDenied (outgoingCallbacks purple) xfer).Ensures state history
      fun _ => Kept pins := by
  have unqueued := kept.sound.unqueued_of_waiting found waiting
  apply (kept.sound.ensures_requestDenied found waiting).mono
  intro _ next shown denied
  rcases denied with ⟨after, ⟨others, _, outgoing, _, nextXfer⟩, rfl⟩
  refine kept.letGo found waiting after ?_ ?_ nextXfer
  · grind
  · rw [outgoing]
    apply List.filter_eq_self.mpr
    grind

end Waiting

end Transfers

end SignalPurple
