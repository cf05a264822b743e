import SignalPurple.Core.Attachment

/-! # What the admission table counts

Any sequence of reservations, dropped permits and cancellations. A permit may be anywhere
in the program, so the permits that are alive are a list of their own beside the table,
each with the size it was reserved with.
-/

namespace SignalPurple

structure LivePermit extends AttachmentPermit where
  reserved : UInt64
  deriving DecidableEq

structure AdmissionRun where
  admission : AttachmentAdmission
  controls : AttachmentControls := {}
  permits : List LivePermit := []

inductive AdmissionLabel where
  | tryReserve (requestId bytes : UInt64)
  | drop (permit : LivePermit)
  | cancel (requestId : UInt64)
  | cancelAll

inductive AdmissionObservation where
  | refused (error : AttachmentAdmissionError)
  /-- `release` subtracts `freed` from the total `held`. -/
  | released (held freed : UInt64)
  | cancelled (requestId : UInt64) (found : Bool)
  deriving DecidableEq

namespace AdmissionRun

variable (state : AdmissionRun)

def tryReserve (requestId bytes : UInt64) : AdmissionRun × List AdmissionObservation :=
  match state.admission.tryReserve state.controls requestId bytes with
  | (.ok permit, admission, controls) =>
      ({ admission, controls, permits := { permit with reserved := bytes } :: state.permits }, [])
  | (.error error, admission, controls) =>
      ({ state with admission, controls }, [.refused error])

def drop (permit : LivePermit) : AdmissionRun × List AdmissionObservation :=
  ({ state with
      admission := state.admission.release permit.requestId
      permits := state.permits.erase permit },
    ((state.admission.state.requests.lookup permit.requestId).map fun entry =>
      AdmissionObservation.released state.admission.state.bytes entry.bytes).toList)

def cancel (requestId : UInt64) : AdmissionRun × List AdmissionObservation :=
  match state.admission.cancel state.controls requestId with
  | (found, controls) => ({ state with controls }, [.cancelled requestId found])

def step : AdmissionLabel → Option (AdmissionRun × List AdmissionObservation)
  | .tryReserve requestId bytes => some (state.tryReserve requestId bytes)
  | .drop permit => if permit ∈ state.permits then some (state.drop permit) else none
  | .cancel requestId => some (state.cancel requestId)
  | .cancelAll =>
      some ({ state with controls := state.admission.cancelAll state.controls }, [])

def machine (maximumBytes : UInt64) (maximumAttachments : Nat) :
    Machine AdmissionRun AdmissionLabel AdmissionObservation where
  initial := { admission := .withLimits maximumBytes maximumAttachments }
  step := step

end AdmissionRun

/-! ## The invariant -/

/-- The table lists the live permits, and nothing else. -/
structure Accounted (maximumBytes : UInt64) (maximumAttachments : Nat) (state : AdmissionRun) :
    Prop where
  limitedBytes : state.admission.maximumBytes = maximumBytes
  limitedCount : state.admission.maximumAttachments = maximumAttachments
  listed : (state.permits.map (·.requestId)).Perm state.admission.state.requests.keys
  entry : ∀ permit ∈ state.permits,
    state.admission.state.requests.lookup permit.requestId =
      some { bytes := permit.reserved, control := permit.control }
  total : state.admission.state.bytes.toNat =
    (state.permits.map (·.reserved.toNat)).sum
  withinBytes : state.admission.state.bytes ≤ maximumBytes
  withinCount : state.admission.state.requests.keys.length ≤ maximumAttachments
  used : ∀ permit ∈ state.permits, permit.control < state.controls.next
  controls : (state.permits.map (·.control)).Nodup

namespace Accounted

variable {maximumBytes : UInt64} {maximumAttachments : Nat} {state : AdmissionRun}

theorem initial : Accounted maximumBytes maximumAttachments
    { admission := .withLimits maximumBytes maximumAttachments } where
  limitedBytes := rfl
  limitedCount := rfl
  listed := List.Perm.nil
  entry := by simp
  total := rfl
  withinBytes := UInt64.zero_le
  withinCount := Nat.zero_le _
  used := by simp
  controls := List.nodup_nil

theorem distinct (accounted : Accounted maximumBytes maximumAttachments state) :
    (state.permits.map (·.requestId)).Nodup :=
  accounted.listed.nodup_iff.mpr state.admission.state.requests.keys_nodup

theorem withControls (accounted : Accounted maximumBytes maximumAttachments state)
    {controls : AttachmentControls} (same : controls.next = state.controls.next) :
    Accounted maximumBytes maximumAttachments { state with controls } where
  limitedBytes := accounted.limitedBytes
  limitedCount := accounted.limitedCount
  listed := accounted.listed
  entry := accounted.entry
  total := accounted.total
  withinBytes := accounted.withinBytes
  withinCount := accounted.withinCount
  used permit member := by
    rw [same]
    exact accounted.used permit member
  controls := accounted.controls

theorem reserve (accounted : Accounted maximumBytes maximumAttachments state)
    {requestId bytes : UInt64} (admits : state.admission.Admits requestId bytes) :
    Accounted maximumBytes maximumAttachments
      { admission := state.admission.reserved requestId bytes state.controls.next
        controls := state.controls.new.2
        permits := { requestId, control := state.controls.next, reserved := bytes } ::
          state.permits } where
  limitedBytes := accounted.limitedBytes
  limitedCount := accounted.limitedCount
  listed := by
    have absent : requestId ∉ state.admission.state.requests.keys := admits.fresh
    simp only [AttachmentAdmission.reserved, AList.keys_insert, List.map_cons,
      List.erase_of_not_mem absent]
    exact accounted.listed.cons requestId
  entry := by
    intro permit member
    rcases List.mem_cons.mp member with rfl | earlier
    · exact AList.lookup_insert _
    · have found := accounted.entry permit earlier
      have apart : permit.requestId ≠ requestId := by
        intro same
        apply admits.fresh
        rw [← AList.lookup_isSome, ← same, found]
        rfl
      exact (AList.lookup_insert_ne apart).trans found
  total := by
    simp only [AttachmentAdmission.reserved, List.map_cons, List.sum_cons]
    rw [Words.toNat_add_of_lt admits.fits, accounted.total, Nat.add_comm]
  withinBytes := by
    rw [← accounted.limitedBytes]
    exact admits.within
  withinCount := by
    have absent : requestId ∉ state.admission.state.requests.keys := admits.fresh
    have counted := admits.counted
    rw [accounted.limitedCount] at counted
    simp only [AttachmentAdmission.reserved, AList.keys_insert, List.length_cons,
      List.erase_of_not_mem absent]
    omega
  used := by
    intro permit member
    rcases List.mem_cons.mp member with rfl | earlier
    · exact Nat.lt_succ_self _
    · exact Nat.lt_succ_of_lt (accounted.used permit earlier)
  controls := by
    refine List.nodup_cons.mpr ⟨?_, accounted.controls⟩
    intro member
    obtain ⟨permit, earlier, same⟩ := List.mem_map.mp member
    exact Nat.ne_of_lt (accounted.used permit earlier) same

theorem reserved_le (accounted : Accounted maximumBytes maximumAttachments state)
    {permit : LivePermit} (live : permit ∈ state.permits) :
    permit.reserved ≤ state.admission.state.bytes := by
  rw [UInt64.le_iff_toNat_le, accounted.total, ← List.sum_map_erase (·.reserved.toNat) live]
  exact Nat.le_add_right _ _

theorem drop (accounted : Accounted maximumBytes maximumAttachments state)
    {permit : LivePermit} (live : permit ∈ state.permits) :
    Accounted maximumBytes maximumAttachments (state.drop permit).1 := by
  have split : state.permits.Perm (permit :: state.permits.erase permit) :=
    List.perm_cons_erase live
  have ids := split.map (·.requestId)
  have distinct := ids.nodup_iff.mp accounted.distinct
  have released : (state.drop permit).1.admission.state =
      { bytes := Words.saturatingSub state.admission.state.bytes permit.reserved
        requests := state.admission.state.requests.erase permit.requestId } := by
    simp only [AdmissionRun.drop, AttachmentAdmission.release, accounted.entry permit live]
  have limits : (state.drop permit).1.admission.maximumBytes = state.admission.maximumBytes ∧
      (state.drop permit).1.admission.maximumAttachments =
        state.admission.maximumAttachments := by
    simp only [AdmissionRun.drop, AttachmentAdmission.release, accounted.entry permit live,
      and_self]
  have enough := accounted.reserved_le live
  exact {
    limitedBytes := limits.1.trans accounted.limitedBytes
    limitedCount := limits.2.trans accounted.limitedCount
    listed := by
      rw [released, AList.keys_erase]
      have kept := (accounted.listed.symm.trans ids).erase permit.requestId
      rw [List.map_cons, List.erase_cons_head] at kept
      exact kept.symm
    entry := by
      intro other member
      have apart : other.requestId ≠ permit.requestId := by
        intro same
        exact (List.nodup_cons.mp distinct).1 (List.mem_map.mpr ⟨other, member, same⟩)
      rw [released]
      rw [AList.lookup_erase_ne apart]
      exact accounted.entry other (List.mem_of_mem_erase member)
    total := by
      rw [released, Words.toNat_saturatingSub enough, accounted.total,
        ← List.sum_map_erase (·.reserved.toNat) live]
      exact Nat.add_sub_cancel_left _ _
    withinBytes := by
      rw [released]
      have bound := accounted.withinBytes
      rw [UInt64.le_iff_toNat_le] at bound ⊢
      rw [Words.toNat_saturatingSub enough]
      omega
    withinCount := by
      rw [released, AList.keys_erase]
      exact (List.erase_sublist.length_le).trans accounted.withinCount
    used := fun other member => accounted.used other (List.mem_of_mem_erase member)
    controls := accounted.controls.sublist (List.erase_sublist.map _) }

end Accounted

theorem AttachmentAdmission.next_cancel (admission : AttachmentAdmission)
    (controls : AttachmentControls) (requestId : UInt64) :
    (admission.cancel controls requestId).2.next = controls.next := by
  unfold AttachmentAdmission.cancel
  split
  · rfl
  · exact AttachmentControls.next_cancel

theorem AttachmentAdmission.next_cancelAll (admission : AttachmentAdmission)
    (controls : AttachmentControls) :
    (admission.cancelAll controls).next = controls.next := by
  unfold AttachmentAdmission.cancelAll
  induction admission.state.requests.entries.map (·.2.control) generalizing controls with
  | nil => rfl
  | cons control rest induction =>
      rw [List.foldl_cons, induction, AttachmentControls.next_cancel]

theorem AttachmentAdmission.state_cancel {admission : AttachmentAdmission}
    {controls : AttachmentControls} {requestId : UInt64} {control : AttachmentControl}
    (other : ∀ entry, admission.state.requests.lookup requestId = some entry →
      control ≠ entry.control) :
    (admission.cancel controls requestId).2.state control = controls.state control := by
  unfold AttachmentAdmission.cancel
  split
  next => rfl
  next entry found =>
    exact AttachmentControls.state_cancel_of_ne (other entry found)

theorem AdmissionRun.tryReserve_cases (state : AdmissionRun) (requestId bytes : UInt64) :
    (∃ error, state.tryReserve requestId bytes = (state, [.refused error])) ∨
      (state.admission.Admits requestId bytes ∧
        state.tryReserve requestId bytes =
          ({ admission := state.admission.reserved requestId bytes state.controls.next
             controls := state.controls.new.2
             permits := { requestId, control := state.controls.next, reserved := bytes } ::
              state.permits }, [])) := by
  unfold AdmissionRun.tryReserve
  rcases state.admission.tryReserve_cases state.controls requestId bytes with
    ⟨error, refused⟩ | ⟨admits, reserved⟩
  · rw [refused]
    exact .inl ⟨error, rfl⟩
  · rw [reserved]
    exact .inr ⟨admits, rfl⟩

theorem AdmissionRun.step_drop_latest (admission : AttachmentAdmission)
    (controls : AttachmentControls) (permit : LivePermit) (permits : List LivePermit) :
    ∃ observed, AdmissionRun.step { admission, controls, permits := permit :: permits }
        (.drop permit) =
      some ({ admission := admission.release permit.requestId, controls, permits },
        observed) := by
  simp only [AdmissionRun.step, List.mem_cons, true_or, if_true, AdmissionRun.drop,
    List.erase_cons_head]
  exact ⟨_, rfl⟩

/-! ## Every run -/

/-- The accounts of the table and its counters, and what the operations leave alone. -/
structure AdmissionLaw (maximumBytes : UInt64) (maximumAttachments : Nat)
    (state : AdmissionRun) (history : List AdmissionObservation) : Prop where
  /-- The requests in the table are those of the live permits, one for each. -/
  listed : (state.permits.map (·.requestId)).Perm state.admission.state.requests.keys
  entry : ∀ permit ∈ state.permits,
    state.admission.state.requests.lookup permit.requestId =
      some { bytes := permit.reserved, control := permit.control }
  total : state.admission.state.bytes.toNat = (state.permits.map (·.reserved.toNat)).sum
  withinBytes : state.admission.state.bytes ≤ maximumBytes
  withinCount : state.admission.state.requests.keys.length ≤ maximumAttachments
  neverSaturates : ∀ held freed, .released held freed ∈ history → freed ≤ held
  refused : ∀ requestId bytes error admission controls,
    state.admission.tryReserve state.controls requestId bytes =
        (.error error, admission, controls) →
      admission = state.admission ∧ controls = state.controls
  cancelled : ∀ requestId, ∀ permit ∈ state.permits, permit.requestId ≠ requestId →
    (state.admission.cancel state.controls requestId).2.state permit.control =
      state.controls.state permit.control
  /-- Not even the control of a request whose permit is gone is reached. -/
  cancelledAlone : ∀ requestId control,
    (∀ permit ∈ state.permits, permit.control = control → permit.requestId ≠ requestId) →
      (state.admission.cancel state.controls requestId).2.state control =
        state.controls.state control

namespace Accounted

variable {maximumBytes : UInt64} {maximumAttachments : Nat} {state : AdmissionRun}

theorem permit_of_lookup (accounted : Accounted maximumBytes maximumAttachments state)
    {requestId : UInt64} {entry : AdmissionEntry}
    (found : state.admission.state.requests.lookup requestId = some entry) :
    ∃ permit ∈ state.permits, permit.requestId = requestId ∧ permit.control = entry.control := by
  have member : requestId ∈ state.admission.state.requests.keys := by
    rw [← AList.mem_keys, ← AList.lookup_isSome, found]
    rfl
  obtain ⟨permit, live, rfl⟩ := List.mem_map.mp (accounted.listed.mem_iff.mpr member)
  have same := (accounted.entry permit live).symm.trans found
  cases same
  exact ⟨permit, live, rfl, rfl⟩

/-- Cancelling one request leaves every other live request's life cycle alone. -/
theorem cancel_other (accounted : Accounted maximumBytes maximumAttachments state)
    {requestId : UInt64} {permit : LivePermit} (live : permit ∈ state.permits)
    (apart : permit.requestId ≠ requestId) :
    (state.admission.cancel state.controls requestId).2.state permit.control =
      state.controls.state permit.control := by
  apply AttachmentAdmission.state_cancel
  intro entry found same
  obtain ⟨owner, owned, named, shared⟩ := accounted.permit_of_lookup found
  have one : permit = owner :=
    List.inj_on_of_nodup_map accounted.controls live owned (same.trans shared.symm)
  exact apart (one ▸ named)

theorem law (accounted : Accounted maximumBytes maximumAttachments state)
    {history : List AdmissionObservation}
    (fits : ∀ held freed, .released held freed ∈ history → freed ≤ held) :
    AdmissionLaw maximumBytes maximumAttachments state history where
  listed := accounted.listed
  entry := accounted.entry
  total := accounted.total
  withinBytes := accounted.withinBytes
  withinCount := accounted.withinCount
  neverSaturates := fits
  refused := by
    intro requestId bytes error admission controls result
    rcases state.admission.tryReserve_cases state.controls requestId bytes with
      ⟨_, refused⟩ | ⟨_, reserved⟩
    · cases refused.symm.trans result
      exact ⟨rfl, rfl⟩
    · cases reserved.symm.trans result
  cancelled := fun _ _ live apart => accounted.cancel_other live apart
  cancelledAlone := by
    intro requestId control other
    apply AttachmentAdmission.state_cancel
    intro entry found same
    obtain ⟨permit, live, named, shared⟩ := accounted.permit_of_lookup found
    exact other permit live (shared.trans same.symm) named

theorem step (accounted : Accounted maximumBytes maximumAttachments state)
    {label : AdmissionLabel} {next : AdmissionRun} {observed : List AdmissionObservation}
    (stepped : state.step label = some (next, observed)) :
    Accounted maximumBytes maximumAttachments next ∧
      ∀ held freed, .released held freed ∈ observed → freed ≤ held := by
  cases label with
  | tryReserve requestId bytes =>
      obtain ⟨rfl, rfl⟩ := Machine.reached_of_some stepped
      rcases state.tryReserve_cases requestId bytes with ⟨error, refused⟩ | ⟨admits, reserved⟩
      · rw [refused]
        exact ⟨accounted, by simp⟩
      · rw [reserved]
        exact ⟨accounted.reserve admits, by simp⟩
  | drop permit =>
      simp only [AdmissionRun.step] at stepped
      split at stepped
      next live =>
        obtain ⟨rfl, rfl⟩ := Machine.reached_of_some stepped
        refine ⟨accounted.drop live, ?_⟩
        intro held freed released
        simp only [AdmissionRun.drop, accounted.entry permit live, Option.map_some,
          Option.toList_some, List.mem_singleton, AdmissionObservation.released.injEq] at released
        rw [released.1, released.2]
        exact accounted.reserved_le live
      next => cases stepped
  | cancel requestId =>
      obtain ⟨rfl, rfl⟩ := Machine.reached_of_some stepped
      refine ⟨accounted.withControls ?_, by simp [AdmissionRun.cancel]⟩
      exact state.admission.next_cancel state.controls requestId
  | cancelAll =>
      obtain ⟨rfl, rfl⟩ := Machine.reached_of_some stepped
      exact ⟨accounted.withControls (state.admission.next_cancelAll state.controls), by simp⟩

end Accounted

structure Audited (maximumBytes : UInt64) (maximumAttachments : Nat) (state : AdmissionRun)
    (history : List AdmissionObservation) : Prop where
  accounted : Accounted maximumBytes maximumAttachments state
  fits : ∀ held freed, .released held freed ∈ history → freed ≤ held

theorem admissionLaw_of_run {maximumBytes : UInt64} {maximumAttachments : Nat}
    {labels : List AdmissionLabel} {state : AdmissionRun} {history : List AdmissionObservation}
    (runs : (AdmissionRun.machine maximumBytes maximumAttachments).run labels =
      some (state, history)) :
    AdmissionLaw maximumBytes maximumAttachments state history := by
  have audited : Audited maximumBytes maximumAttachments state history := by
    apply Machine.run_invariant _ _ _ runs
    · exact ⟨Accounted.initial, by simp⟩
    · intro state history label next observed audited stepped
      obtain ⟨accounted, released⟩ := audited.accounted.step stepped
      refine ⟨accounted, ?_⟩
      intro held freed member
      rcases List.mem_append.mp member with earlier | now
      · exact audited.fits held freed earlier
      · exact released held freed now
  exact audited.accounted.law audited.fits

end SignalPurple
