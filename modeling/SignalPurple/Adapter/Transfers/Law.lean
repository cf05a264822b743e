import SignalPurple.Adapter.Transfers.Start

/-! # Outgoing transfers over whole runs

Two laws of every run with every library, in whichever order the user, libpurple and the core
act. No call uses a transfer, a context or a connection that was freed, and nothing of a
connection outlives it. A library may fault on every call that its laws do not cover, so this
also says that the plugin makes no such call. A transfer ends at most once, it is only
completed after the core reported its request, and one that the core took is found by its
request until it has ended.
-/

namespace SignalPurple

namespace Transfers

open Program

/-! ## The other calls -/

section Others

variable {purple : XferLibrary} {state : Transfers} {history : List TransferEntry}
  {connection : TransferConnection} {xfer : XferId} {object : Xfer}

theorem Sound.no_context_of_closed {pins : Multiset XferId} {ending : Option XferId}
    (sound : Sound pins ending state) (closed : state.connection = none) (context : ContextId) :
    state.contexts context = none := by
  have registered := sound.registered context
  cases isContext : state.contexts context with
  | none => rfl
  | some attachment => grind

theorem Kept.login (kept : Kept 0 state history) (closed : state.connection = none) :
    Kept 0 { state with connection := some {} } history := by
  have noContext := kept.sound.no_context_of_closed closed
  have noneQueued : state.outgoing = [] := by
    rw [outgoing, closed]
    rfl
  have balanced := kept.sound.balanced
  rw [holders, noneQueued] at balanced
  refine kept.sameXfers { kept.sound with
    balanced := balanced, registered := ?_, listed := ?_, keys := List.nodup_nil, queued := ?_ }
    (by rfl) (by rfl) noneQueued.symm
  · grind
  · grind
  · intro requestId xfer member
    cases member

theorem Sound.alloc (sound : Sound 0 none state) {recipient : String} {group : Bool}
    (isConnection : state.connection = some connection) :
    Sound 0 none
      { state with
        xfers := state.xfers.alloc state.nextXfer { data := some state.nextContext }
        nextXfer := state.nextXfer + 1
        contexts := Function.update state.contexts state.nextContext (some { recipient, group })
        nextContext := state.nextContext + 1
        connection := some
          { connection with
            outgoingAttachmentContexts :=
              connection.outgoingAttachmentContexts ++ [state.nextContext] } } := by
  have objects := RefHeap.object?_alloc state.xfers state.nextXfer
    { data := some state.nextContext }
  have contexts := Function.update_apply state.contexts state.nextContext
    (some ({ recipient, group } : OutgoingAttachment))
  rcases sound with ⟨balanced, linked, exclusive, registered, listed, distinct, keys, queued,
    freshXfer, freshContext⟩
  have newContext := freshContext state.nextContext (Nat.le_refl _)
  have newXfer := freshXfer state.nextXfer (Nat.le_refl _)
  rw [holders, outgoing_eq isConnection] at balanced
  rw [outgoing_eq isConnection] at keys queued
  have unallocated : state.xfers.cells state.nextXfer = none := Option.map_eq_none_iff.mp newXfer
  constructor
  · exact balanced.alloc unallocated rfl
  · intro other context reached
    have before := linked other context
    grind [Points]
  · intro one other context first second
    have before := exclusive one other context
    have isOld := linked
    grind [Points]
  · intro context attachment isContext
    have before := registered context attachment
    grind
  · intro found isFound
    have before := listed connection isConnection
    grind
  · grind
  · exact keys
  · intro requestId other member
    have before := queued requestId other member
    grind [Queued]
  · grind
  · grind

theorem Kept.newXfer (kept : Kept 0 state history) (recipient : String) (group : Bool) :
    (signalNewAttachmentXfer purple recipient group).Ensures state history fun _ => Kept 0 := by
  rw [signalNewAttachmentXfer, ensures_bind, ensures_read]
  cases isConnection : state.connection with
  | none => exact ensures_pure.mpr kept
  | some connection =>
      simp only
      split
      · exact ensures_pure.mpr kept
      rw [ensures_bind]
      rcases purple.new_cases state with refused | created
      · rw [ensures_of_eq refused, List.append_nil]
        exact ensures_pure.mpr kept
      · rw [ensures_of_eq created, List.append_nil]
        simp only [addContext, ensures_bind, ensures_read, ensures_write]
        refine (ensures_setXfer (by exact RefHeap.object?_alloc_self _ _ _)).mpr ?_
        refine (ensures_setConnection (by exact isConnection)).mpr ?_
        rw [RefHeap.set_alloc]
        refine ⟨kept.sound.alloc isConnection, kept.told.silent ?_ (outgoing_eq isConnection).symm⟩
        refine over_of_statuses (by exact Nat.le_succ _) ?_
        grind [RefHeap.object?_alloc]

/-- The user interface takes or drops a reference, which is a pin for the time of the call. -/
theorem Sound.withHeld {pins later : Multiset XferId} {held : List XferId}
    (sound : Sound pins none state)
    (moved : (↑held : Multiset XferId) + later = ↑state.uiHeld + pins) :
    Sound later none { state with uiHeld := held } := by
  refine { sound with balanced := ?_ }
  have balanced := sound.balanced
  have same : { state with uiHeld := held }.holders + later = state.holders + pins := by
    simp only [holders, outgoing, ← Multiset.coe_add]
    rw [Multiset.add_assoc, Multiset.add_comm _ later, ← Multiset.add_assoc, moved,
      Multiset.add_assoc, Multiset.add_comm pins, ← Multiset.add_assoc]
  rw [same]
  exact balanced

theorem Kept.uiRef (kept : Kept 0 state history)
    (found : state.xfers.object? xfer = some object) :
    (perform purple (.uiRef xfer)).Ensures state history fun _ => Kept 0 := by
  have pinned := kept.pin found
  rw [perform, ensures_bind, ensures_ref found, ensures_write]
  refine pinned.sameXfers (pinned.sound.withHeld ?_) (by rfl) (by rfl) (by rfl)
  rw [Multiset.add_zero, ← Multiset.cons_coe, Multiset.add_cons, Multiset.add_zero]

theorem Kept.uiUnref (kept : Kept 0 state history) (member : xfer ∈ state.uiHeld) :
    (perform purple (.uiUnref xfer)).Ensures state history fun _ => Kept 0 := by
  have pinned : Sound (xfer ::ₘ 0) none { state with uiHeld := state.uiHeld.erase xfer } := by
    apply kept.sound.withHeld
    rw [Multiset.add_cons, Multiset.add_zero, Multiset.add_zero, Multiset.cons_coe,
      Multiset.coe_eq_coe]
    exact (List.perm_cons_erase member).symm
  rw [perform, ensures_bind, ensures_write]
  exact (kept.sameXfers pinned rfl rfl rfl).ensures_unpin

theorem Kept.otherRequest (kept : Kept 0 state history)
    (isConnection : state.connection = some connection) (numbers : state.HasNumbers) :
    (perform purple .otherRequest).Ensures state history fun _ => Kept 0 := by
  rw [perform, ensures_setConnection isConnection]
  refine kept.sameXfers (kept.sound.withConnection isConnection (by rfl) (by rfl) ?_) (by rfl)
    (by rfl) (outgoing_eq isConnection).symm
  exact UInt64.le_of_lt (numbers connection isConnection)

end Others

/-! ## Every call -/

theorem Kept.perform {purple : XferLibrary} {state : Transfers} {history : List TransferEntry}
    {label : TransferLabel} (kept : Kept 0 state history) (numbers : state.HasNumbers)
    (enabled : state.enabled label = true) :
    (perform purple label).Ensures state history fun _ => Kept 0 := by
  cases label with
  | login =>
      rw [Transfers.perform, ensures_write]
      exact kept.login (Option.isNone_iff_eq_none.mp enabled)
  | newXfer recipient group => exact kept.newXfer recipient group
  | init xfer outcome =>
      rcases (Option.any_eq_true _ _).mp enabled with ⟨object, found, waiting⟩
      exact kept.init found (of_decide_eq_true waiting) numbers outcome
  | vanished xfer =>
      rcases (Option.any_eq_true _ _).mp enabled with ⟨object, found, waiting⟩
      exact kept.discard found (of_decide_eq_true waiting)
  | denied xfer =>
      rcases (Option.any_eq_true _ _).mp enabled with ⟨object, found, waiting⟩
      exact kept.denied found (of_decide_eq_true waiting)
  | cancelled xfer =>
      rcases (Option.any_eq_true _ _).mp enabled with ⟨object, found, owned⟩
      exact (kept.cancel found owned (Or.inl rfl)).mono fun _ _ _ cancelled => cancelled.1
  | uiRef xfer =>
      rcases Option.isSome_iff_exists.mp enabled with ⟨object, found⟩
      exact kept.uiRef found
  | uiUnref xfer => exact kept.uiUnref (List.contains_iff_mem.mp enabled)
  | attachmentSent requestId => exact kept.complete enabled
  | attachmentFailed requestId text => exact kept.failed enabled
  | otherRequest =>
      rcases Option.isSome_iff_exists.mp enabled with ⟨connection, isConnection⟩
      exact kept.otherRequest isConnection numbers
  | close orders =>
      rcases Option.isSome_iff_exists.mp enabled with ⟨connection, isConnection⟩
      have fresh : ∀ requestId, (requestId, state.nextXfer) ∉ state.outgoing := by
        intro requestId member
        rcases kept.sound.running member with ⟨object, found, _⟩
        exact absurd (kept.sound.lt_nextXfer found) (Nat.lt_irrefl _)
      exact (kept.close isConnection fresh).mono fun _ _ _ closed => closed.1

/-! ## Runs -/

variable {purple : XferLibrary} {labels : List TransferLabel} {final : Transfers}
  {history : List TransferEntry}

/-- Before every call, and after the last one, the connection has numbers left. -/
def NumbersLast (purple : XferLibrary) (labels : List TransferLabel) (final : Transfers) : Prop :=
  (machine purple).StepsMeet (fun state _ => state.HasNumbers) (machine purple).initial labels ∧
    final.HasNumbers

theorem Sound.initial : Sound 0 none {} where
  balanced := RefHeap.Balanced.empty
  linked := by simp [Points, RefHeap.object?]
  exclusive := by simp [Points, RefHeap.object?]
  registered := nofun
  listed := nofun
  distinct := nofun
  keys := List.nodup_nil
  queued := nofun
  freshXfer _ _ := rfl
  freshContext _ _ := rfl

theorem kept_of_run
    (numbers : (machine purple).StepsMeet (fun state _ => state.HasNumbers)
      (machine purple).initial labels)
    (runs : (machine purple).run labels = some (final, history)) : Kept 0 final history := by
  refine (machine purple).run_invariant_of_steps ⟨Sound.initial, ?_⟩ ?_ numbers runs
  · intro state earlier label next entries kept hasNumbers stepped
    simp only [machine, step] at stepped
    split at stepped
    next enabled =>
      rcases Option.map_eq_some_iff.mp stepped with ⟨⟨_, reached⟩, performed, same⟩
      cases same
      exact (ensures_of_eq performed).mp (kept.perform hasNumbers enabled)
    next => cases stepped
  · exact ⟨History.justified_nil _, nofun, nofun, nofun⟩

/-! ## Memory safety -/

structure MemorySafe (purple : XferLibrary) (state : Transfers) : Prop where
  /-- No call follows a pointer to something that was freed. -/
  calls : ∀ label, state.enabled label = true → (perform purple label state).isSome = true
  /-- A transfer is kept by libpurple until it lets go of it, by the user interface and by the
  table of queued transfers, and by nothing else. -/
  counted : ∀ xfer cell, state.xfers.cells xfer = some cell →
    cell.refs = cell.object.own + state.uiHeld.count xfer +
      (state.outgoing.map Prod.snd).count xfer
  /-- With the connection its contexts are gone, and no transfer points to one. -/
  closed : state.connection = none → (∀ context, state.contexts context = none) ∧
    ∀ xfer object, state.xfers.object? xfer = some object → object.data = none

theorem memorySafe_of_run (runs : (machine purple).run labels = some (final, history))
    (numbers : NumbersLast purple labels final) : MemorySafe purple final := by
  have kept := kept_of_run numbers.1 runs
  constructor
  · intro label enabled
    rcases kept.perform numbers.2 enabled with ⟨_, _, _, performed, _⟩
    exact Option.isSome_of_eq_some performed
  · intro xfer cell found
    have refs := (kept.sound.balanced.refs xfer cell found).1
    rw [Multiset.add_zero, holders, Multiset.coe_count, List.count_append] at refs
    omega
  · intro noConnection
    exact ⟨kept.sound.no_context_of_closed noConnection,
      fun _ => kept.sound.cut_of_closed noConnection⟩

/-! ## Outcomes -/

structure OutcomeLaw (purple : XferLibrary) (state : Transfers) (history : List TransferEntry) :
    Prop extends Told state history where
  /-- The report of the core completes a transfer that the connection finds. -/
  completes : ∀ requestId xfer, (requestId, xfer) ∈ state.outgoing →
    ∃ next entries, perform purple (.attachmentSent requestId) state = some ((), next, entries) ∧
      .ended xfer .done ∈ entries

theorem outcomeLaw_of_run (runs : (machine purple).run labels = some (final, history))
    (numbers : NumbersLast purple labels final) : OutcomeLaw purple final history := by
  have kept := kept_of_run numbers.1 runs
  refine ⟨kept.told, ?_⟩
  intro requestId xfer member
  have connected : final.connection.isSome := by
    cases isConnection : final.connection with
    | none => simp [outgoing, isConnection] at member
    | some connection => rfl
  rcases kept.complete_of_queued connected member with ⟨_, next, entries, performed, _, shown⟩
  rw [List.append_assoc] at shown
  refine ⟨next, entries, performed, ?_⟩
  rw [List.append_cancel_left shown]
  simp

/-! ## A run -/

/-- Two transfers are queued. One is completed, the other one is still running when the
account is closed. The third one is denied while a dialog holds it, and the file of the fourth
one is gone. The account is closed by a handler while the last one is started, and its file
cannot be opened. -/
def sendTwoAndClose : List TransferLabel :=
  let accepted : InitOutcome :=
    { canSend := true, inspected := .ok 7, opens := true, accepts := true }
  [.login, .newXfer "aci:alice" false, .newXfer "group" true, .newXfer "aci:bob" false,
    .newXfer "aci:bob" false, .newXfer "aci:bob" false, .init 0 accepted, .uiRef 0,
    .init 1 accepted, .uiRef 2, .denied 2, .vanished 3, .attachmentSent 1,
    .init 4 { accepted with closes := some ⟨.asAdded, .asAdded⟩, opens := false },
    .uiUnref 0, .uiUnref 2]

theorem hasNumbers_of_all {state : Transfers}
    (all : (state.connection.all fun connection =>
      connection.nextRequestId < connection.nextRequestId + 1) = true) : state.HasNumbers := by
  intro connection isConnection
  rw [isConnection] at all
  exact of_decide_eq_true all

def sendTwoAndCloseShows : List TransferEntry :=
  [.queued 1 0, .queued 2 1, .sent 1, .ended 0 .done, .ended 1 .cancelLocal,
    .ended 4 .cancelLocal]

theorem run_sendTwoAndClose :
    ∃ final, (machine .strict).run sendTwoAndClose = some (final, sendTwoAndCloseShows) ∧
      final.connection = none ∧ NumbersLast .strict sendTwoAndClose final := by
  have reaches : ((machine .strict).run sendTwoAndClose).map (fun reached =>
      (reached.2, reached.1.connection.isNone)) = some (sendTwoAndCloseShows, true) := by
    decide +kernel
  have numbers : (machine .strict).StepsMeet (fun state _ => state.HasNumbers)
      (machine .strict).initial sendTwoAndClose :=
    (machine .strict).stepsMeet_of_checkSteps (fun _ _ => hasNumbers_of_all) (by decide +kernel)
  rcases Option.map_eq_some_iff.mp reaches with ⟨⟨final, shown⟩, runs, same⟩
  rcases Prod.mk.inj same with ⟨rfl, isNone⟩
  have closed := Option.isNone_iff_eq_none.mp isNone
  refine ⟨final, runs, closed, numbers, hasNumbers_of_all ?_⟩
  rw [closed]
  rfl

theorem memorySafe_sendTwoAndClose :
    ∃ final, (machine .strict).run sendTwoAndClose = some (final, sendTwoAndCloseShows) ∧
      final.connection = none ∧ MemorySafe .strict final := by
  rcases run_sendTwoAndClose with ⟨final, runs, closed, numbers⟩
  exact ⟨final, runs, closed, memorySafe_of_run runs numbers⟩

theorem outcomeLaw_sendTwoAndClose :
    ∃ final, (machine .strict).run sendTwoAndClose = some (final, sendTwoAndCloseShows) ∧
      OutcomeLaw .strict final sendTwoAndCloseShows := by
  rcases run_sendTwoAndClose with ⟨final, runs, _, numbers⟩
  exact ⟨final, runs, outcomeLaw_of_run runs numbers⟩

end Transfers

end SignalPurple
