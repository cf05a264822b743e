import Mathlib.Data.Finset.Basic
import Mathlib.Data.List.Basic

/-! # The acknowledgment inbox

The state that `acknowledgment.rs` guards with its mutex, and the critical section
of each of its operations. Operations that call `notify_one` after releasing the
mutex return whether they do.
-/

namespace SignalPurple

abbrev DeliveryId := UInt64

structure AcknowledgmentState where
  isOpen : Bool := true
  registered : Finset DeliveryId := ∅
  accepted : Finset DeliveryId := ∅
  ready : List DeliveryId := []
  retry : List DeliveryId := []
  deriving DecidableEq

namespace AcknowledgmentState

def register (state : AcknowledgmentState) (deliveryId : DeliveryId) :
    AcknowledgmentState :=
  { state with registered := insert deliveryId state.registered }

def unregister (state : AcknowledgmentState) (deliveryId : DeliveryId) :
    AcknowledgmentState :=
  { state with
    registered := state.registered.erase deliveryId
    accepted := state.accepted.erase deliveryId
    ready := state.ready.filter (· ≠ deliveryId)
    retry := state.retry.filter (· ≠ deliveryId) }

structure Submission where
  state : AcknowledgmentState
  notify : Bool
  returned : Bool
  deriving DecidableEq

/-- The id is registered and this is its first submission. -/
def accepts (state : AcknowledgmentState) (deliveryId : DeliveryId) : Bool :=
  decide (deliveryId ∈ state.registered) && decide (deliveryId ∉ state.accepted)

def accept (state : AcknowledgmentState) (deliveryId : DeliveryId) :
    AcknowledgmentState :=
  { state with
    accepted := insert deliveryId state.accepted
    ready := state.ready ++ [deliveryId] }

def submit (state : AcknowledgmentState) (deliveryId : DeliveryId) : Submission :=
  if !state.isOpen then { state, notify := false, returned := false }
  else if state.accepts deliveryId then
    { state := state.accept deliveryId, notify := true, returned := true }
  else { state, notify := false, returned := true }

structure Taken where
  state : AcknowledgmentState
  deliveryIds : List DeliveryId
  notify : Bool
  deriving DecidableEq

def takeReady (state : AcknowledgmentState) (maximum : Nat) : Taken :=
  let remaining := state.ready.drop (min maximum state.ready.length)
  { state := { state with ready := remaining }
    deliveryIds := state.ready.take (min maximum state.ready.length)
    notify := !remaining.isEmpty }

def deferRetry (state : AcknowledgmentState) (deliveryId : DeliveryId) :
    AcknowledgmentState :=
  if deliveryId ∈ state.registered ∧ deliveryId ∈ state.accepted then
    { state with retry := state.retry ++ [deliveryId] }
  else state

def activateRetries (state : AcknowledgmentState) : AcknowledgmentState × Bool :=
  let ready := state.ready ++ state.retry
  ({ state with ready, retry := [] }, !ready.isEmpty)

/-- Unlike `activateRetries`, closing notifies even when nothing is ready. -/
def close (state : AcknowledgmentState) : AcknowledgmentState :=
  { state with isOpen := false, ready := state.ready ++ state.retry, retry := [] }

theorem submit_of_closed {state : AcknowledgmentState} (closed : state.isOpen = false)
    (deliveryId : DeliveryId) :
    state.submit deliveryId = { state, notify := false, returned := false } := by
  simp [submit, closed]

theorem submit_of_accepts {state : AcknowledgmentState} {deliveryId : DeliveryId}
    (opened : state.isOpen = true) (accepts : state.accepts deliveryId = true) :
    state.submit deliveryId =
      { state := state.accept deliveryId, notify := true, returned := true } := by
  simp [submit, opened, accepts]

theorem submit_of_refused {state : AcknowledgmentState} {deliveryId : DeliveryId}
    (opened : state.isOpen = true) (refused : state.accepts deliveryId = false) :
    state.submit deliveryId = { state, notify := false, returned := true } := by
  simp [submit, opened, refused]

@[simp] theorem registered_submit (state : AcknowledgmentState) (deliveryId : DeliveryId) :
    (state.submit deliveryId).state.registered = state.registered := by
  unfold submit
  split
  · rfl
  · split <;> rfl

@[simp] theorem registered_deferRetry (state : AcknowledgmentState) (deliveryId : DeliveryId) :
    (state.deferRetry deliveryId).registered = state.registered := by
  unfold deferRetry
  split <;> rfl

@[simp] theorem accepted_deferRetry (state : AcknowledgmentState) (deliveryId : DeliveryId) :
    (state.deferRetry deliveryId).accepted = state.accepted := by
  unfold deferRetry
  split <;> rfl

@[simp] theorem ready_deferRetry (state : AcknowledgmentState) (deliveryId : DeliveryId) :
    (state.deferRetry deliveryId).ready = state.ready := by
  unfold deferRetry
  split <;> rfl

theorem mem_retry_deferRetry {state : AcknowledgmentState} {id deliveryId : DeliveryId}
    (member : id ∈ (state.deferRetry deliveryId).retry) :
    id ∈ state.retry ∨ id = deliveryId := by
  unfold deferRetry at member
  split at member
  · simpa using member
  · exact Or.inl member

theorem takeReady_splits (state : AcknowledgmentState) (maximum : Nat) :
    state.ready =
      (state.takeReady maximum).deliveryIds ++ (state.takeReady maximum).state.ready :=
  (List.take_append_drop _ _).symm

theorem ready_of_takeReady_nil {state : AcknowledgmentState} {maximum : Nat}
    (positive : 0 < maximum) (none : (state.takeReady maximum).deliveryIds = []) :
    (state.takeReady maximum).state.ready = [] := by
  have isEmpty : state.ready = [] := by
    rcases List.take_eq_nil_iff.mp none with zero | isEmpty
    · exact List.length_eq_zero_iff.mp (by omega)
    · exact isEmpty
  simp [takeReady, isEmpty]

end AcknowledgmentState

end SignalPurple
