import Mathlib.Data.List.AList
import SignalPurple.Core.Acknowledgment
import SignalPurple.Core.Content

/-! # Message projection

The actor's record of messages that were shown to the UI and are not acknowledged yet,
as `projection.rs` keeps it: the pending contents by delivery id, the identities that
suppress duplicates, and the inbox through which acknowledgments arrive.
-/

namespace SignalPurple

def maxPendingMessageProjections : Nat := 64
def recentProjectionIdentityLimit : Nat := 4096
def acknowledgmentBatchSize : Nat := 64

/-- What `handle_content` says about a content it was given. -/
inductive ProjectionDisposition where
  | awaitingAck
  | complete
  | retry
  deriving DecidableEq

structure ProjectionEffect where
  removePending : Bool
  markProjected : Bool
  deriving DecidableEq

def projectionEffect : ProjectionDisposition → ProjectionEffect
  | .awaitingAck => { removePending := false, markProjected := false }
  | .complete => { removePending := true, markProjected := true }
  | .retry => { removePending := true, markProjected := false }

structure ProjectionIdentities where
  pending : Finset ProjectionIdentity := ∅
  completed : Finset ProjectionIdentity := ∅
  completedOrder : List ProjectionIdentity := []
  deriving DecidableEq

namespace ProjectionIdentities

def reserve (identities : ProjectionIdentities) (identity : ProjectionIdentity) :
    ProjectionIdentities × Bool :=
  if identity ∈ identities.completed then (identities, false)
  else
    ({ identities with pending := insert identity identities.pending },
      decide (identity ∉ identities.pending))

def releasePending (identities : ProjectionIdentities) (identity : ProjectionIdentity) :
    ProjectionIdentities :=
  { identities with pending := identities.pending.erase identity }

/-- The loop that forgets the oldest identities beyond the limit. -/
def expire (limit : Nat) (completed : Finset ProjectionIdentity) :
    List ProjectionIdentity → Finset ProjectionIdentity × List ProjectionIdentity
  | [] => (completed, [])
  | oldest :: rest =>
      if limit < rest.length + 1 then expire limit (completed.erase oldest) rest
      else (completed, oldest :: rest)

def complete (identities : ProjectionIdentities) (identity : ProjectionIdentity) :
    ProjectionIdentities :=
  let pending := identities.pending.erase identity
  if identity ∈ identities.completed then { identities with pending }
  else
    let expired := expire recentProjectionIdentityLimit
      (insert identity identities.completed) (identities.completedOrder ++ [identity])
    { pending, completed := expired.1, completedOrder := expired.2 }

end ProjectionIdentities

structure MessageProjection where
  nextDeliveryId : DeliveryId := 0
  pending : AList fun _ : DeliveryId => Content := ∅
  identities : ProjectionIdentities := {}
  acknowledgments : AcknowledgmentState := {}
  deriving DecidableEq

namespace MessageProjection

def hasCapacity (projection : MessageProjection) : Bool :=
  decide (projection.pending.keys.length < maxPendingMessageProjections)

/-- `wrapping_add(1).max(1)`: zero means "no delivery id" to the adapter. -/
def issueDeliveryId (projection : MessageProjection) : DeliveryId :=
  max (projection.nextDeliveryId + 1) 1

def track (projection : MessageProjection) (content : Content) :
    MessageProjection × Option DeliveryId :=
  if !projection.hasCapacity then (projection, none)
  else
    match projection.identities.reserve (projectionIdentity content) with
    | (identities, false) => ({ projection with identities }, none)
    | (identities, true) =>
        let deliveryId := projection.issueDeliveryId
        ({ nextDeliveryId := deliveryId
           pending := projection.pending.insert deliveryId content
           identities
           acknowledgments := projection.acknowledgments.register deliveryId },
          some deliveryId)

/-- The common part of `release` and `complete`: the content leaves with its id. -/
def withdraw (projection : MessageProjection) (deliveryId : DeliveryId)
    (settle : ProjectionIdentities → ProjectionIdentity → ProjectionIdentities) :
    MessageProjection × Option Content :=
  match projection.pending.lookup deliveryId with
  | none => (projection, none)
  | some content =>
      ({ projection with
         pending := projection.pending.erase deliveryId
         acknowledgments := projection.acknowledgments.unregister deliveryId
         identities := settle projection.identities (projectionIdentity content) },
        some content)

def release (projection : MessageProjection) (deliveryId : DeliveryId) :
    MessageProjection × Option Content :=
  projection.withdraw deliveryId ProjectionIdentities.releasePending

def complete (projection : MessageProjection) (deliveryId : DeliveryId) :
    MessageProjection × Option Content :=
  projection.withdraw deliveryId ProjectionIdentities.complete

/-- The inbox is shared, so it changes apart from the rest of the projection. -/
def withAcknowledgments (projection : MessageProjection)
    (acknowledgments : AcknowledgmentState) : MessageProjection :=
  { projection with acknowledgments }

/-- An acknowledgment of an id without pending content only clears the inbox. -/
def forgetAcknowledgment (projection : MessageProjection) (deliveryId : DeliveryId) :
    MessageProjection :=
  projection.withAcknowledgments (projection.acknowledgments.unregister deliveryId)

/-! ## What the operations do -/

theorem track_of_full {projection : MessageProjection} (content : Content)
    (full : projection.hasCapacity = false) :
    projection.track content = (projection, none) := by
  simp [track, full]

theorem track_of_known {projection : MessageProjection} {content : Content}
    (known : projectionIdentity content ∈ projection.identities.pending ∨
      projectionIdentity content ∈ projection.identities.completed) :
    projection.track content = (projection, none) := by
  by_cases full : projection.hasCapacity = true
  · by_cases completed : projectionIdentity content ∈ projection.identities.completed
    · simp [track, full, ProjectionIdentities.reserve, completed]
    · have pending : projectionIdentity content ∈ projection.identities.pending := by
        simpa [completed] using known
      simp [track, full, ProjectionIdentities.reserve, completed, pending]
  · exact track_of_full content (by simpa using full)

def tracked (projection : MessageProjection) (content : Content) : MessageProjection where
  nextDeliveryId := projection.issueDeliveryId
  pending := projection.pending.insert projection.issueDeliveryId content
  identities := { projection.identities with
    pending := insert (projectionIdentity content) projection.identities.pending }
  acknowledgments := projection.acknowledgments.register projection.issueDeliveryId

theorem track_of_new {projection : MessageProjection} {content : Content}
    (room : projection.hasCapacity = true)
    (notPending : projectionIdentity content ∉ projection.identities.pending)
    (notCompleted : projectionIdentity content ∉ projection.identities.completed) :
    projection.track content =
      (projection.tracked content, some projection.issueDeliveryId) := by
  simp [track, room, ProjectionIdentities.reserve, notCompleted, notPending, tracked]

theorem withdraw_of_absent {projection : MessageProjection} {deliveryId : DeliveryId}
    (absent : projection.pending.lookup deliveryId = none)
    (settle : ProjectionIdentities → ProjectionIdentity → ProjectionIdentities) :
    projection.withdraw deliveryId settle = (projection, none) := by
  simp [withdraw, absent]

theorem withdraw_of_pending {projection : MessageProjection} {deliveryId : DeliveryId}
    {content : Content} (found : projection.pending.lookup deliveryId = some content)
    (settle : ProjectionIdentities → ProjectionIdentity → ProjectionIdentities) :
    projection.withdraw deliveryId settle =
      ({ projection with
         pending := projection.pending.erase deliveryId
         acknowledgments := projection.acknowledgments.unregister deliveryId
         identities := settle projection.identities (projectionIdentity content) },
        some content) := by
  simp [withdraw, found]

end MessageProjection

end SignalPurple
