import Mathlib.Algebra.BigOperators.Group.List.Basic
import Mathlib.Data.List.AList
import SignalPurple.Foundation.Machine
import SignalPurple.Foundation.Words

/-! # Admission of outgoing attachments

An attachment is admitted with a permit, which counts against two limits until it is
dropped. The permit and the table share the attachment's control, an atomic life cycle with
the handle that aborts the upload. Controls are cells of a small memory, so that a clone of
one is the same cell.
-/

namespace SignalPurple

def maxAttachmentBytes : UInt64 := 25 * 1024 * 1024
def maxAdmittedOutgoingAttachmentBytes : UInt64 := 50 * 1024 * 1024
def maxAdmittedOutgoingAttachments : Nat := 2

inductive AttachmentAdmissionError where
  | invalid
  | capacity
  deriving DecidableEq

inductive AttachmentLifecycle where
  | active
  | cancelled
  | terminal
  deriving DecidableEq

structure AttachmentControlState where
  lifecycle : AttachmentLifecycle := .active
  /-- The abort handle was used. -/
  cancellation : Bool := false
  deriving DecidableEq

/-- The cell an `Arc<AttachmentControlState>` points to. -/
abbrev AttachmentControl := Nat

structure AttachmentControls where
  state : AttachmentControl → AttachmentControlState := fun _ => {}
  /-- The cells from here on are not in use. -/
  next : AttachmentControl := 0

namespace AttachmentControls

variable (controls : AttachmentControls) (control : AttachmentControl)

def set (state : AttachmentControlState) : AttachmentControls :=
  { controls with state := Function.update controls.state control state }

def new : AttachmentControl × AttachmentControls :=
  (controls.next, { controls.set controls.next {} with next := controls.next + 1 })

def cancel : Bool × AttachmentControls :=
  if (controls.state control).lifecycle = .active then
    (true, controls.set control { lifecycle := .cancelled, cancellation := true })
  else (false, controls)

def isCancelled : Bool :=
  (controls.state control).lifecycle = .cancelled

def claimTerminal : Bool × AttachmentControls :=
  if (controls.state control).lifecycle = .active then
    (true, controls.set control { controls.state control with lifecycle := .terminal })
  else (false, controls)

variable {controls control} {other : AttachmentControl}

theorem state_set_of_ne {state : AttachmentControlState} (apart : other ≠ control) :
    (controls.set control state).state other = controls.state other := by
  simp [set, apart]

@[simp] theorem next_new : controls.new.2.next = controls.next + 1 := rfl

@[simp] theorem next_cancel : (controls.cancel control).2.next = controls.next := by
  simp only [cancel]
  split <;> rfl

@[simp] theorem next_claimTerminal : (controls.claimTerminal control).2.next = controls.next := by
  simp only [claimTerminal]
  split <;> rfl

theorem state_new (used : other < controls.next) :
    controls.new.2.state other = controls.state other :=
  state_set_of_ne (Nat.ne_of_lt used)

theorem state_cancel_of_ne (apart : other ≠ control) :
    (controls.cancel control).2.state other = controls.state other := by
  simp only [cancel]
  split
  · exact state_set_of_ne apart
  · rfl

theorem state_claimTerminal_of_ne (apart : other ≠ control) :
    (controls.claimTerminal control).2.state other = controls.state other := by
  simp only [claimTerminal]
  split
  · exact state_set_of_ne apart
  · rfl

end AttachmentControls

structure AdmissionEntry where
  bytes : UInt64
  control : AttachmentControl
  deriving DecidableEq

structure AdmissionState where
  bytes : UInt64 := 0
  requests : AList fun _ : UInt64 => AdmissionEntry := ∅

structure AttachmentAdmission where
  maximumBytes : UInt64
  maximumAttachments : Nat
  state : AdmissionState := {}

/-- What a reservation hands out. The registration of the abort handle goes with the
control. -/
structure AttachmentPermit where
  requestId : UInt64
  control : AttachmentControl
  deriving DecidableEq

namespace AttachmentAdmission

def withLimits (maximumBytes : UInt64) (maximumAttachments : Nat) : AttachmentAdmission :=
  { maximumBytes, maximumAttachments }

def new : AttachmentAdmission :=
  withLimits maxAdmittedOutgoingAttachmentBytes maxAdmittedOutgoingAttachments

variable (admission : AttachmentAdmission)

/-- `checked_add` overflows, or the sum is over the limit. -/
def exceeds (bytes : UInt64) : Bool :=
  match Words.checkedAdd admission.state.bytes bytes with
  | none => true
  | some total => admission.maximumBytes < total

def reserved (requestId bytes : UInt64) (control : AttachmentControl) : AttachmentAdmission :=
  { admission with
    state.bytes := admission.state.bytes + bytes
    state.requests := admission.state.requests.insert requestId { bytes, control } }

def tryReserve (controls : AttachmentControls) (requestId bytes : UInt64) :
    Except AttachmentAdmissionError AttachmentPermit × AttachmentAdmission ×
      AttachmentControls :=
  if requestId = 0 ∨ bytes = 0 ∨ maxAttachmentBytes < bytes then
    (.error .invalid, admission, controls)
  else if requestId ∈ admission.state.requests then
    (.error .invalid, admission, controls)
  else if admission.maximumAttachments ≤ admission.state.requests.keys.length ∨
      admission.exceeds bytes then
    (.error .capacity, admission, controls)
  else
    (.ok { requestId, control := controls.new.1 },
      admission.reserved requestId bytes controls.new.1, controls.new.2)

def cancel (controls : AttachmentControls) (requestId : UInt64) : Bool × AttachmentControls :=
  match admission.state.requests.lookup requestId with
  | none => (false, controls)
  | some entry => (true, (controls.cancel entry.control).2)

def cancelAll (controls : AttachmentControls) : AttachmentControls :=
  (admission.state.requests.entries.map (·.2.control)).foldl
    (fun controls control => (controls.cancel control).2) controls

def release (requestId : UInt64) : AttachmentAdmission :=
  match admission.state.requests.lookup requestId with
  | none => admission
  | some entry => { admission with
      state.bytes := Words.saturatingSub admission.state.bytes entry.bytes
      state.requests := admission.state.requests.erase requestId }

variable {admission} {controls : AttachmentControls} {requestId bytes : UInt64}

theorem exceeds_eq_false :
    admission.exceeds bytes = false ↔
      admission.state.bytes.toNat + bytes.toNat < 2 ^ 64 ∧
        admission.state.bytes + bytes ≤ admission.maximumBytes := by
  unfold exceeds Words.checkedAdd
  by_cases fits : admission.state.bytes.toNat + bytes.toNat < 2 ^ 64
  · rw [if_pos fits]
    simp only [decide_eq_false_iff_not, UInt64.not_lt, fits, true_and]
  · rw [if_neg fits]
    simp only [fits, false_and, Bool.true_eq_false]

structure Admits (admission : AttachmentAdmission) (requestId bytes : UInt64) : Prop where
  named : requestId ≠ 0
  positive : bytes ≠ 0
  bounded : bytes ≤ maxAttachmentBytes
  fresh : requestId ∉ admission.state.requests
  counted : admission.state.requests.keys.length < admission.maximumAttachments
  fits : admission.state.bytes.toNat + bytes.toNat < 2 ^ 64
  within : admission.state.bytes + bytes ≤ admission.maximumBytes

theorem tryReserve_cases (admission : AttachmentAdmission) (controls : AttachmentControls)
    (requestId bytes : UInt64) :
    (∃ error, admission.tryReserve controls requestId bytes =
        (.error error, admission, controls)) ∨
      (admission.Admits requestId bytes ∧
        admission.tryReserve controls requestId bytes =
          (.ok { requestId, control := controls.next },
            admission.reserved requestId bytes controls.next, controls.new.2)) := by
  unfold tryReserve
  split
  next => exact .inl ⟨.invalid, rfl⟩
  next wellFormed =>
    split
    next => exact .inl ⟨.invalid, rfl⟩
    next fresh =>
      split
      next => exact .inl ⟨.capacity, rfl⟩
      next room =>
        simp only [not_or, not_le, Bool.not_eq_true] at wellFormed room
        have total := exceeds_eq_false.mp room.2
        exact .inr ⟨⟨wellFormed.1, wellFormed.2.1, UInt64.not_lt.mp wellFormed.2.2, fresh,
          room.1, total.1, total.2⟩, rfl⟩

theorem Admits.tryReserve (admits : admission.Admits requestId bytes)
    (controls : AttachmentControls) :
    admission.tryReserve controls requestId bytes =
      (.ok { requestId, control := controls.next },
        admission.reserved requestId bytes controls.next, controls.new.2) := by
  have exceeds : admission.exceeds bytes = false :=
    exceeds_eq_false.mpr ⟨admits.fits, admits.within⟩
  simp only [AttachmentAdmission.tryReserve, admits.named, admits.positive,
    UInt64.not_lt.mpr admits.bounded, admits.fresh, Nat.not_le.mpr admits.counted, exceeds,
    Bool.false_eq_true, or_self, if_false]
  rfl

theorem release_reserved (admits : admission.Admits requestId bytes)
    (control : AttachmentControl) :
    (admission.reserved requestId bytes control).release requestId = admission := by
  have erased : (admission.state.requests.insert requestId { bytes, control }).erase requestId =
      admission.state.requests := by
    apply AList.ext
    rw [AList.insert_of_notMem admits.fresh]
    exact List.kerase_cons_eq rfl
  simp only [release, reserved, AList.lookup_insert, erased,
    Words.saturatingSub_add admits.fits]

theorem mem_requests_release {other : UInt64} :
    other ∈ (admission.release requestId).state.requests ↔
      other ≠ requestId ∧ other ∈ admission.state.requests := by
  unfold release
  split
  next absent =>
    constructor
    · intro member
      refine ⟨?_, member⟩
      rintro rfl
      exact AList.lookup_eq_none.mp absent member
    · exact fun both => both.2
  next => exact AList.mem_erase

end AttachmentAdmission

end SignalPurple
