import SignalPurple.Core.Projection.Representation
import SignalPurple.Foundation.Machine

/-! # Runs of the projection's operations

Any sequence of calls on a projection and its inbox, each taken as a whole. The
representation invariant holds after every one of them, for as long as the 64-bit
counter of delivery ids does not come round.
-/

namespace SignalPurple

inductive ProjectionLabel where
  | track (content : Content)
  | release (deliveryId : DeliveryId)
  | complete (deliveryId : DeliveryId)
  | acknowledge (deliveryId : DeliveryId) (stored : Bool)
  | submit (deliveryId : DeliveryId)
  | takeReady (maximum : Nat)
  | deferRetry (deliveryId : DeliveryId)
  | activateRetries
  | close

inductive ProjectionEntry where
  | issued (deliveryId : DeliveryId)
  | completed (identity : ProjectionIdentity)
  deriving DecidableEq

namespace MessageProjection

/-- `acknowledge_message`, with the result of its store write. -/
def acknowledgeMessage (projection : MessageProjection) (deliveryId : DeliveryId)
    (stored : Bool) : MessageProjection × Option Content :=
  match projection.pending.lookup deliveryId with
  | none => (projection.forgetAcknowledgment deliveryId, none)
  | some _ => if stored then projection.complete deliveryId else (projection, none)

def issuedEntries (result : MessageProjection × Option DeliveryId) : List ProjectionEntry :=
  (result.2.map ProjectionEntry.issued).toList

def completedEntries (result : MessageProjection × Option Content) : List ProjectionEntry :=
  (result.2.map fun content => .completed (projectionIdentity content)).toList

def call (projection : MessageProjection) :
    ProjectionLabel → MessageProjection × List ProjectionEntry
  | .track content => ((projection.track content).1, issuedEntries (projection.track content))
  | .release deliveryId => ((projection.release deliveryId).1, [])
  | .complete deliveryId =>
      ((projection.complete deliveryId).1, completedEntries (projection.complete deliveryId))
  | .acknowledge deliveryId stored =>
      ((projection.acknowledgeMessage deliveryId stored).1,
        completedEntries (projection.acknowledgeMessage deliveryId stored))
  | .submit deliveryId =>
      (projection.withAcknowledgments
        (projection.acknowledgments.submit deliveryId).state, [])
  | .takeReady maximum =>
      (projection.withAcknowledgments
        (projection.acknowledgments.takeReady maximum).state, [])
  | .deferRetry deliveryId =>
      (projection.withAcknowledgments (projection.acknowledgments.deferRetry deliveryId), [])
  | .activateRetries =>
      (projection.withAcknowledgments projection.acknowledgments.activateRetries.1, [])
  | .close => (projection.withAcknowledgments projection.acknowledgments.close, [])

def machine : Machine MessageProjection ProjectionLabel ProjectionEntry where
  initial := {}
  step projection label := some (projection.call label)

def issuedIds (history : List ProjectionEntry) : List DeliveryId :=
  history.filterMap fun
    | .issued deliveryId => some deliveryId
    | .completed _ => none

def completedIdentities (history : List ProjectionEntry) : List ProjectionIdentity :=
  history.filterMap fun
    | .issued _ => none
    | .completed identity => some identity

@[simp] theorem issuedIds_append (before after : List ProjectionEntry) :
    issuedIds (before ++ after) = issuedIds before ++ issuedIds after :=
  List.filterMap_append

@[simp] theorem completedIdentities_append (before after : List ProjectionEntry) :
    completedIdentities (before ++ after) =
      completedIdentities before ++ completedIdentities after :=
  List.filterMap_append

/-- The representation invariant, until the counter has gone round once. -/
def Sound (projection : MessageProjection) (history : List ProjectionEntry) : Prop :=
  (issuedIds history).length < 2 ^ 64 →
    Represents projection (issuedIds history) (completedIdentities history)

theorem Represents.track {projection : MessageProjection} {history : List ProjectionEntry}
    (represents : Represents projection (issuedIds history) (completedIdentities history))
    (content : Content)
    (few : (issuedIds (history ++ issuedEntries (projection.track content))).length < 2 ^ 64) :
    Represents (projection.track content).1
      (issuedIds (history ++ issuedEntries (projection.track content)))
      (completedIdentities (history ++ issuedEntries (projection.track content))) := by
  by_cases room : projection.hasCapacity = true
  · by_cases known : projectionIdentity content ∈ projection.identities.pending ∨
        projectionIdentity content ∈ projection.identities.completed
    · rw [track_of_known known]
      simpa [issuedEntries] using represents
    · rw [not_or] at known
      rw [track_of_new room known.1 known.2] at few ⊢
      have one : issuedIds (issuedEntries
          (projection.tracked content, some projection.issueDeliveryId)) =
          [projection.issueDeliveryId] := rfl
      have none : completedIdentities (issuedEntries
          (projection.tracked content, some projection.issueDeliveryId)) = [] := rfl
      rw [issuedIds_append, one, List.length_append, List.length_singleton] at few
      rw [issuedIds_append, completedIdentities_append, one, none, List.append_nil]
      exact represents.tracked few room known.1 known.2
  · rw [track_of_full content (by simpa using room)]
    simpa [issuedEntries] using represents

theorem Represents.complete {projection : MessageProjection} {history : List ProjectionEntry}
    (represents : Represents projection (issuedIds history) (completedIdentities history))
    (deliveryId : DeliveryId) :
    Represents (projection.complete deliveryId).1
      (issuedIds (history ++ completedEntries (projection.complete deliveryId)))
      (completedIdentities (history ++ completedEntries (projection.complete deliveryId))) := by
  cases found : projection.pending.lookup deliveryId with
  | none =>
      rw [MessageProjection.complete, withdraw_of_absent found]
      simpa [completedEntries] using represents
  | some content =>
      have after := represents.completed found
      rw [MessageProjection.complete, withdraw_of_pending found] at after ⊢
      simpa [completedEntries, issuedIds, completedIdentities] using after

theorem Represents.acknowledge {projection : MessageProjection}
    {history : List ProjectionEntry}
    (represents : Represents projection (issuedIds history) (completedIdentities history))
    (deliveryId : DeliveryId) (stored : Bool) :
    Represents (projection.acknowledgeMessage deliveryId stored).1
      (issuedIds (history ++ completedEntries (projection.acknowledgeMessage deliveryId stored)))
      (completedIdentities
        (history ++ completedEntries (projection.acknowledgeMessage deliveryId stored))) := by
  unfold acknowledgeMessage
  split
  next absent =>
    simpa [completedEntries] using represents.forget absent
  next =>
    cases stored with
    | false => simpa [completedEntries] using represents
    | true => exact represents.complete deliveryId

theorem Sound.call {projection : MessageProjection} {history : List ProjectionEntry}
    (sound : Sound projection history) (label : ProjectionLabel) :
    Sound (projection.call label).1 (history ++ (projection.call label).2) := by
  intro few
  have fewBefore : (issuedIds history).length < 2 ^ 64 := by
    rw [issuedIds_append, List.length_append] at few
    omega
  have represents := sound fewBefore
  cases label with
  | track content => exact represents.track content few
  | release deliveryId =>
      simp only [MessageProjection.call, List.append_nil]
      cases found : projection.pending.lookup deliveryId with
      | none => simpa [release, withdraw_of_absent found] using represents
      | some content => exact represents.released found
  | complete deliveryId => exact represents.complete deliveryId
  | acknowledge deliveryId stored => exact represents.acknowledge deliveryId stored
  | submit deliveryId =>
      simp only [MessageProjection.call, List.append_nil]
      exact represents.withAcknowledgments (by simp)
  | takeReady maximum =>
      simp only [MessageProjection.call, List.append_nil]
      exact represents.withAcknowledgments rfl
  | deferRetry deliveryId =>
      simp only [MessageProjection.call, List.append_nil]
      exact represents.withAcknowledgments (by simp)
  | activateRetries =>
      simp only [MessageProjection.call, List.append_nil]
      exact represents.withAcknowledgments rfl
  | close =>
      simp only [MessageProjection.call, List.append_nil]
      exact represents.withAcknowledgments rfl

theorem sound_of_run {labels : List ProjectionLabel} {projection : MessageProjection}
    {history : List ProjectionEntry} (runs : machine.run labels = some (projection, history)) :
    Sound projection history := by
  refine machine.run_invariant ?_ ?_ runs
  · intro _
    exact Represents.initial
  · intro projection history label next entries sound stepped
    have after := sound.call label
    rw [Option.some.inj stepped] at after
    exact after

/-- A content is tracked exactly when there is room and its identity is neither pending
nor among the most recently completed ones. -/
theorem Represents.track_isSome_iff {projection : MessageProjection}
    {issued : List DeliveryId} {completions : List ProjectionIdentity}
    (represents : Represents projection issued completions) (content : Content) :
    (projection.track content).2.isSome = true ↔
      projection.pending.keys.length < maxPendingMessageProjections ∧
      projectionIdentity content ∉ projection.identities.pending ∧
      projectionIdentity content ∉
        Recency.lastDistinct recentProjectionIdentityLimit completions := by
  rw [← represents.completedRecent, ← List.mem_toFinset, ← represents.completedSet]
  by_cases room : projection.hasCapacity = true
  · have space : projection.pending.keys.length < maxPendingMessageProjections := by
      simpa [hasCapacity] using room
    by_cases known : projectionIdentity content ∈ projection.identities.pending ∨
        projectionIdentity content ∈ projection.identities.completed
    · rw [track_of_known known]
      simp only [Option.isSome_none, Bool.false_eq_true, false_iff]
      rintro ⟨-, notPending, notCompleted⟩
      exact known.elim notPending notCompleted
    · rw [not_or] at known
      rw [track_of_new room known.1 known.2]
      simp [space, known.1, known.2]
  · have full : ¬projection.pending.keys.length < maxPendingMessageProjections := by
      simpa [hasCapacity] using room
    rw [track_of_full content (by simpa using room)]
    simp [full]

/-- The representation invariant in every state of every run that issues fewer than
`2 ^ 64` delivery ids. -/
theorem run_keeps_representation {labels : List ProjectionLabel}
    {projection : MessageProjection} {history : List ProjectionEntry}
    (few : (issuedIds history).length < 2 ^ 64)
    (runs : machine.run labels = some (projection, history)) :
    projection.pending.keys.length ≤ 64 ∧
    (∀ id, id ∈ projection.acknowledgments.registered ↔ id ∈ projection.pending.keys) ∧
    (∀ identity, identity ∈ projection.identities.pending ↔
      ∃ id content, projection.pending.lookup id = some content ∧
        projectionIdentity content = identity) ∧
    (∀ first second one other, projection.pending.lookup first = some one →
      projection.pending.lookup second = some other →
      projectionIdentity one = projectionIdentity other → first = second) ∧
    projection.identities.completed = projection.identities.completedOrder.toFinset ∧
    projection.identities.completedOrder.Nodup ∧
    projection.identities.completedOrder.length ≤ 4096 ∧
    Disjoint projection.identities.completed projection.identities.pending ∧
    (∀ id ∈ issuedIds history, id ≠ 0) ∧
    (issuedIds history).Nodup ∧
    (∀ content, (projection.track content).2.isSome = true ↔
      projection.pending.keys.length < 64 ∧
      projectionIdentity content ∉ projection.identities.pending ∧
      projectionIdentity content ∉
        Recency.lastDistinct 4096 (completedIdentities history)) := by
  have represents := sound_of_run runs few
  refine ⟨represents.bounded, represents.registered, represents.identitiesPending,
    represents.distinctIdentities, represents.completedSet, ?_, ?_, ?_, ?_,
    represents.issuedDistinct, represents.track_isSome_iff⟩
  · rw [represents.completedRecent]
    exact Recency.nodup_lastDistinct _ _
  · rw [represents.completedRecent]
    exact Recency.length_lastDistinct_le _ _
  · rw [Finset.disjoint_right]
    exact represents.disjoint
  · intro id member isZero
    have positive := (represents.issuedBounds id member).1
    rw [isZero] at positive
    exact absurd positive (by decide)

/-- A duplicate of a completed message is not tracked again. -/
theorem run_keeps_representation_after_duplicate :
    ∃ projection history,
      machine.run [.track (directContent 1), .track (directContent 2), .submit 1,
        .takeReady 64, .acknowledge 1 true, .track (directContent 1)] =
          some (projection, history) ∧
      issuedIds history = [1, 2] ∧ projection.pending.keys = [2] ∧
      projection.pending.keys.length ≤ 64 := by
  have runs : machine.run [.track (directContent 1), .track (directContent 2), .submit 1,
      .takeReady 64, .acknowledge 1 true, .track (directContent 1)] =
      some ({ nextDeliveryId := 2
              pending := AList.insert 2 (directContent 2) ∅
              identities :=
                { pending := {projectionIdentity (directContent 2)}
                  completed := {projectionIdentity (directContent 1)}
                  completedOrder := [projectionIdentity (directContent 1)] }
              acknowledgments := { registered := {2} } },
        [.issued 1, .issued 2, .completed (projectionIdentity (directContent 1))]) :=
    rfl
  exact ⟨_, _, runs, rfl, rfl, (run_keeps_representation (by decide) runs).1⟩

end MessageProjection

end SignalPurple
