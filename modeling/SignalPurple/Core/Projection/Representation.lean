import SignalPurple.Core.Projection
import SignalPurple.Foundation.Recency

/-! # The representation of a message projection

How the map, the two identity sets, the eviction queue and the inbox relate to what
happened so far: the delivery ids issued and the identities completed, oldest first.
-/

namespace SignalPurple

namespace ProjectionIdentities

theorem expire_order (limit : Nat) (completed : Finset ProjectionIdentity)
    (order : List ProjectionIdentity) :
    (expire limit completed order).2 = Recency.trim limit order := by
  induction order generalizing completed with
  | nil => simp [expire, Recency.trim]
  | cons oldest rest induction =>
      unfold expire
      split
      next exceeds =>
        rw [induction, Recency.trim, Recency.trim, List.rtake, List.rtake, List.length_cons,
          Nat.succ_sub (Nat.le_of_lt_succ exceeds), List.drop_succ_cons]
      next within =>
        rw [Recency.trim, List.rtake, List.length_cons,
          Nat.sub_eq_zero_of_le (Nat.le_of_not_lt within), List.drop_zero]

theorem expire_completed (limit : Nat) (order : List ProjectionIdentity)
    (distinct : order.Nodup) :
    (expire limit order.toFinset order).1 = (expire limit order.toFinset order).2.toFinset := by
  induction order with
  | nil => rfl
  | cons oldest rest induction =>
      have fresh : oldest ∉ rest := (List.nodup_cons.mp distinct).1
      unfold expire
      split
      · have erased : (oldest :: rest).toFinset.erase oldest = rest.toFinset := by
          rw [List.toFinset_cons]
          exact Finset.erase_insert (by simpa using fresh)
        rw [erased]
        exact induction (List.nodup_cons.mp distinct).2
      · rfl

end ProjectionIdentities

namespace MessageProjection

structure Represents (projection : MessageProjection) (issued : List DeliveryId)
    (completions : List ProjectionIdentity) : Prop where
  issuedCount : projection.nextDeliveryId.toNat = issued.length
  issuedBounds : ∀ id ∈ issued, 0 < id.toNat ∧ id.toNat ≤ issued.length
  issuedDistinct : issued.Nodup
  pendingIssued : ∀ id ∈ projection.pending, id ∈ issued
  bounded : projection.pending.keys.length ≤ maxPendingMessageProjections
  registered : ∀ id, id ∈ projection.acknowledgments.registered ↔ id ∈ projection.pending
  identitiesPending : ∀ identity, identity ∈ projection.identities.pending ↔
    ∃ id content, projection.pending.lookup id = some content ∧
      projectionIdentity content = identity
  distinctIdentities : ∀ first second one other,
    projection.pending.lookup first = some one →
    projection.pending.lookup second = some other →
    projectionIdentity one = projectionIdentity other → first = second
  completedSet : projection.identities.completed =
    projection.identities.completedOrder.toFinset
  completedRecent : projection.identities.completedOrder =
    Recency.lastDistinct recentProjectionIdentityLimit completions
  disjoint : ∀ identity ∈ projection.identities.pending,
    identity ∉ projection.identities.completed

namespace Represents

variable {projection : MessageProjection} {issued : List DeliveryId}
  {completions : List ProjectionIdentity}

theorem initial : Represents {} [] [] where
  issuedCount := rfl
  issuedBounds := by simp
  issuedDistinct := List.nodup_nil
  pendingIssued := by simp [AList.notMem_empty]
  bounded := Nat.zero_le _
  registered := by simp [AList.notMem_empty]
  identitiesPending := by simp
  distinctIdentities := by simp
  completedSet := rfl
  completedRecent := rfl
  disjoint := by simp

theorem toNat_issueDeliveryId (represents : Represents projection issued completions)
    (few : issued.length + 1 < 2 ^ 64) :
    projection.issueDeliveryId.toNat = issued.length + 1 := by
  have next : (projection.nextDeliveryId + 1).toNat = issued.length + 1 := by
    rw [UInt64.toNat_add, represents.issuedCount]
    exact Nat.mod_eq_of_lt few
  rw [issueDeliveryId, UInt64.toNat_max, next, UInt64.toNat_one]
  omega

theorem issueDeliveryId_notMem (represents : Represents projection issued completions)
    (few : issued.length + 1 < 2 ^ 64) : projection.issueDeliveryId ∉ issued := by
  intro member
  have bound := (represents.issuedBounds _ member).2
  rw [represents.toNat_issueDeliveryId few] at bound
  omega

theorem issueDeliveryId_notPending (represents : Represents projection issued completions)
    (few : issued.length + 1 < 2 ^ 64) :
    projection.issueDeliveryId ∉ projection.pending := fun member =>
  represents.issueDeliveryId_notMem few (represents.pendingIssued _ member)

theorem lookup_tracked {content found : Content} {id : DeliveryId}
    (result : (projection.tracked content).pending.lookup id = some found) :
    (id = projection.issueDeliveryId ∧ found = content) ∨
      projection.pending.lookup id = some found := by
  by_cases same : id = projection.issueDeliveryId
  · subst same
    rw [MessageProjection.tracked, AList.lookup_insert] at result
    exact Or.inl ⟨rfl, (Option.some.inj result).symm⟩
  · rw [MessageProjection.tracked, AList.lookup_insert_ne same] at result
    exact Or.inr result

theorem tracked {content : Content} (represents : Represents projection issued completions)
    (few : issued.length + 1 < 2 ^ 64) (room : projection.hasCapacity = true)
    (notPending : projectionIdentity content ∉ projection.identities.pending)
    (notCompleted : projectionIdentity content ∉ projection.identities.completed) :
    Represents (projection.tracked content) (issued ++ [projection.issueDeliveryId])
      completions := by
  have count := represents.toNat_issueDeliveryId few
  have fresh := represents.issueDeliveryId_notPending few
  -- A pending content with the same identity would have blocked the reservation.
  have unlike : ∀ id other, projection.pending.lookup id = some other →
      projectionIdentity other ≠ projectionIdentity content := by
    intro id other found same
    exact notPending ((represents.identitiesPending _).mpr ⟨id, other, found, same⟩)
  constructor
  case issuedCount => simp [MessageProjection.tracked, count]
  case issuedBounds =>
    intro id member
    rw [List.length_append, List.length_singleton]
    rcases List.mem_append.mp member with earlier | new
    · have bounds := represents.issuedBounds id earlier
      omega
    · rw [List.mem_singleton.mp new, count]
      omega
  case issuedDistinct =>
    rw [List.nodup_append]
    refine ⟨represents.issuedDistinct, List.nodup_singleton _, ?_⟩
    intro id member other single same
    rw [same, List.mem_singleton.mp single] at member
    exact represents.issueDeliveryId_notMem few member
  case pendingIssued =>
    intro id member
    rcases AList.mem_insert _ |>.mp member with same | earlier
    · exact List.mem_append_right _ (List.mem_singleton.mpr same)
    · exact List.mem_append_left _ (represents.pendingIssued id earlier)
  case bounded =>
    have space : projection.pending.keys.length < maxPendingMessageProjections := by
      simpa [hasCapacity] using room
    have absent : projection.issueDeliveryId ∉ projection.pending.keys := fresh
    rw [MessageProjection.tracked, AList.keys_insert, List.erase_of_not_mem absent,
      List.length_cons]
    omega
  case registered =>
    intro id
    simp only [MessageProjection.tracked, AcknowledgmentState.register, Finset.mem_insert,
      AList.mem_insert, represents.registered id]
  case identitiesPending =>
    intro identity
    simp only [MessageProjection.tracked, Finset.mem_insert, represents.identitiesPending]
    constructor
    · rintro (same | ⟨id, other, found, same⟩)
      · exact ⟨projection.issueDeliveryId, content, AList.lookup_insert _, same.symm⟩
      · refine ⟨id, other, ?_, same⟩
        rw [AList.lookup_insert_ne]
        · exact found
        · intro equal
          rw [equal] at found
          exact fresh (AList.lookup_isSome.mp (by simp [found]))
    · rintro ⟨id, other, found, same⟩
      rcases lookup_tracked found with ⟨-, rfl⟩ | earlier
      · exact Or.inl same.symm
      · exact Or.inr ⟨id, other, earlier, same⟩
  case distinctIdentities =>
    intro first second one other foundOne foundOther same
    rcases lookup_tracked foundOne with ⟨rfl, rfl⟩ | earlierOne
    · rcases lookup_tracked foundOther with ⟨rfl, rfl⟩ | earlierOther
      · rfl
      · exact absurd same.symm (unlike second other earlierOther)
    · rcases lookup_tracked foundOther with ⟨rfl, rfl⟩ | earlierOther
      · exact absurd same (unlike first one earlierOne)
      · exact represents.distinctIdentities first second one other earlierOne earlierOther same
  case completedSet => exact represents.completedSet
  case completedRecent => exact represents.completedRecent
  case disjoint =>
    intro identity member
    rcases Finset.mem_insert.mp member with rfl | earlier
    · exact notCompleted
    · exact represents.disjoint identity earlier

theorem lookup_erase_eq_some {id erased : DeliveryId} {content : Content} :
    (projection.pending.erase erased).lookup id = some content ↔
      id ≠ erased ∧ projection.pending.lookup id = some content := by
  by_cases same : id = erased
  · subst same
    simp
  · simp [AList.lookup_erase_ne same, same]

theorem withdrawn {deliveryId : DeliveryId} {content : Content}
    {identities : ProjectionIdentities} {later : List ProjectionIdentity}
    (represents : Represents projection issued completions)
    (found : projection.pending.lookup deliveryId = some content)
    (erases : identities.pending =
      projection.identities.pending.erase (projectionIdentity content))
    (completedSet : identities.completed = identities.completedOrder.toFinset)
    (completedRecent : identities.completedOrder =
      Recency.lastDistinct recentProjectionIdentityLimit later)
    (disjoint : ∀ identity ∈ identities.pending, identity ∉ identities.completed) :
    Represents
      { projection with
        pending := projection.pending.erase deliveryId
        acknowledgments := projection.acknowledgments.unregister deliveryId
        identities } issued later where
  issuedCount := represents.issuedCount
  issuedBounds := represents.issuedBounds
  issuedDistinct := represents.issuedDistinct
  pendingIssued := by
    intro id member
    exact represents.pendingIssued id (AList.mem_erase.mp member).2
  bounded := by
    refine Nat.le_trans ?_ represents.bounded
    rw [AList.keys_erase]
    exact List.length_erase_le
  registered := by
    intro id
    simp only [AcknowledgmentState.unregister, Finset.mem_erase, AList.mem_erase,
      represents.registered id]
  identitiesPending := by
    intro identity
    simp only [erases, Finset.mem_erase, represents.identitiesPending, lookup_erase_eq_some]
    constructor
    · rintro ⟨different, id, other, earlier, same⟩
      refine ⟨id, other, ⟨?_, earlier⟩, same⟩
      rintro rfl
      rw [found] at earlier
      cases earlier
      exact different same.symm
    · rintro ⟨id, other, ⟨different, earlier⟩, same⟩
      refine ⟨?_, id, other, earlier, same⟩
      intro equal
      exact different
        (represents.distinctIdentities id deliveryId other content earlier found (same.trans equal))
  distinctIdentities := by
    intro first second one other foundOne foundOther same
    exact represents.distinctIdentities first second one other
      (lookup_erase_eq_some.mp foundOne).2 (lookup_erase_eq_some.mp foundOther).2 same
  completedSet := completedSet
  completedRecent := completedRecent
  disjoint := disjoint

theorem identity_pending {deliveryId : DeliveryId} {content : Content}
    (represents : Represents projection issued completions)
    (found : projection.pending.lookup deliveryId = some content) :
    projectionIdentity content ∈ projection.identities.pending :=
  (represents.identitiesPending _).mpr ⟨deliveryId, content, found, rfl⟩

theorem released {deliveryId : DeliveryId} {content : Content}
    (represents : Represents projection issued completions)
    (found : projection.pending.lookup deliveryId = some content) :
    Represents (projection.release deliveryId).1 issued completions := by
  rw [release, withdraw_of_pending found]
  refine represents.withdrawn found rfl represents.completedSet represents.completedRecent ?_
  intro identity member
  exact represents.disjoint identity (Finset.mem_of_mem_erase member)

theorem notRecent_of_pending {identity : ProjectionIdentity}
    (represents : Represents projection issued completions)
    (pending : identity ∈ projection.identities.pending) :
    identity ∉ Recency.lastDistinct recentProjectionIdentityLimit completions := by
  have notCompleted := represents.disjoint identity pending
  rwa [represents.completedSet, List.mem_toFinset, represents.completedRecent] at notCompleted

theorem complete_identities {identity : ProjectionIdentity}
    (represents : Represents projection issued completions)
    (pending : identity ∈ projection.identities.pending) :
    (projection.identities.complete identity).pending =
        projection.identities.pending.erase identity ∧
      (projection.identities.complete identity).completed =
        (projection.identities.complete identity).completedOrder.toFinset ∧
      (projection.identities.complete identity).completedOrder =
        Recency.lastDistinct recentProjectionIdentityLimit (completions ++ [identity]) := by
  have notCompleted := represents.disjoint identity pending
  have notRecent := represents.notRecent_of_pending pending
  have inserted : insert identity projection.identities.completed =
      (projection.identities.completedOrder ++ [identity]).toFinset := by
    ext other
    rw [represents.completedSet, Finset.mem_insert, List.mem_toFinset, List.mem_toFinset,
      List.mem_append, List.mem_singleton, or_comm]
  have distinct : (projection.identities.completedOrder ++ [identity]).Nodup := by
    rw [List.nodup_append]
    refine ⟨?_, List.nodup_singleton _, ?_⟩
    · rw [represents.completedRecent]
      exact Recency.nodup_lastDistinct _ _
    · intro other member same single equal
      rw [equal, List.mem_singleton.mp single, represents.completedRecent] at member
      exact notRecent member
  simp only [ProjectionIdentities.complete, notCompleted, ↓reduceIte, inserted]
  refine ⟨trivial, ProjectionIdentities.expire_completed _ _ distinct, ?_⟩
  rw [ProjectionIdentities.expire_order, Recency.lastDistinct_concat (by decide) notRecent,
    ← represents.completedRecent]

theorem completed {deliveryId : DeliveryId} {content : Content}
    (represents : Represents projection issued completions)
    (found : projection.pending.lookup deliveryId = some content) :
    Represents (projection.complete deliveryId).1 issued
      (completions ++ [projectionIdentity content]) := by
  have pending := represents.identity_pending found
  rcases represents.complete_identities pending with ⟨erases, completedSet, completedRecent⟩
  rw [complete, withdraw_of_pending found]
  refine represents.withdrawn found erases completedSet completedRecent ?_
  intro identity member completed
  rw [erases] at member
  rcases Finset.mem_erase.mp member with ⟨different, stillPending⟩
  rw [completedSet, completedRecent, List.mem_toFinset] at completed
  rcases Recency.mem_of_mem_lastDistinct_concat (by decide)
    (represents.notRecent_of_pending pending) completed with earlier | same
  · exact represents.notRecent_of_pending stillPending earlier
  · exact different same

theorem withAcknowledgments {acknowledgments : AcknowledgmentState}
    (represents : Represents projection issued completions)
    (same : acknowledgments.registered = projection.acknowledgments.registered) :
    Represents (projection.withAcknowledgments acknowledgments) issued completions := by
  refine ⟨represents.issuedCount, represents.issuedBounds, represents.issuedDistinct,
    represents.pendingIssued, represents.bounded, ?_, represents.identitiesPending,
    represents.distinctIdentities, represents.completedSet, represents.completedRecent,
    represents.disjoint⟩
  intro id
  rw [MessageProjection.withAcknowledgments, same]
  exact represents.registered id

theorem forget {deliveryId : DeliveryId}
    (represents : Represents projection issued completions)
    (absent : projection.pending.lookup deliveryId = none) :
    Represents (projection.forgetAcknowledgment deliveryId) issued completions := by
  apply represents.withAcknowledgments
  apply Finset.erase_eq_of_notMem
  rw [represents.registered, ← AList.lookup_isSome, absent]
  simp

end Represents

end MessageProjection

end SignalPurple
