import SignalPurple.Core.Projection.Submission
import SignalPurple.Foundation.History

/-! # The ledger of displayed messages

`mark_message_projected` writes the durable ledger. A message that waits for the UI gets
there only through the delivery id of its current tracking, and submissions of any other
id leave the actor as it was.
-/

namespace SignalPurple.ProjectionActor

/-- A ledger write is called for a content that is tracked under exactly one id, and if
the UI was asked about that id, the UI has submitted it. -/
def WriteAllowed (before : List ActorEntry) : ActorEntry → Prop
  | .markCalled content =>
      ∃ id, Tracked before id content ∧
        (∀ other, Tracked before other content → other = id) ∧
        (.disposed id .awaitingAck ∈ before → SubmittedSince before id)
  | _ => True

structure Accountable (actor : ProjectionActor) (history : List ActorEntry) : Prop where
  tracking : Tracking actor history
  disposing : Disposing actor history
  submitting : Submitting actor history
  justified : History.Justified WriteAllowed history

variable {actor next : ProjectionActor} {history entries : List ActorEntry}

theorem Tracking.only_id {id : DeliveryId} {content : Content}
    (tracking : Tracking actor history)
    (found : actor.projection.pending.lookup id = some content) :
    ∀ other, Tracked history other content → other = id := by
  intro other tracked
  rcases tracking.represents with ⟨completions, represents⟩
  exact represents.distinctIdentities other id content content
    ((tracking.current other content).mpr tracked) found rfl

theorem justified_of_no_write
    (noWrite : ∀ content, .markCalled content ∉ entries) :
    History.Justified (fun before => WriteAllowed (history ++ before)) entries := by
  intro before entry after split
  cases entry with
  | markCalled content =>
      refine absurd ?_ (noWrite content)
      rw [split]
      simp
  | _ => trivial

theorem justified_of_write {content : Content}
    (allowed : WriteAllowed history (.markCalled content)) :
    History.Justified (fun before => WriteAllowed (history ++ before)) [.markCalled content] := by
  rw [History.justified_singleton, List.append_nil]
  exact allowed

theorem Accountable.allowed_in_batch {id : DeliveryId} {content : Content}
    (accountable : Accountable actor history)
    (found : actor.projection.pending.lookup id = some content)
    (flying : id ∈ inFlight actor.phase) : WriteAllowed history (.markCalled content) :=
  ⟨id, (accountable.tracking.current id content).mp found,
    accountable.tracking.only_id found,
    fun _ => accountable.submitting.since id (Or.inr (Or.inr (Or.inr flying)))⟩

theorem Accountable.allowed_after_complete {id : DeliveryId} {content : Content}
    (accountable : Accountable actor history) (phase : actor.phase = .handling id content) :
    WriteAllowed (history ++ [.disposed id .complete]) (.markCalled content) := by
  have found := accountable.tracking.heldPending id content (by rw [phase]; rfl)
  have unhandled := accountable.disposing.undisposed id content phase .awaitingAck
  refine ⟨id, ?_, ?_, ?_⟩
  · simpa [Tracked] using (accountable.tracking.current id content).mp found
  · intro other tracked
    refine accountable.tracking.only_id found other ?_
    simpa [Tracked] using tracked
  · intro disposed
    simp [unhandled] at disposed

theorem Accountable.justifiedEntries {label : ActorLabel}
    (accountable : Accountable actor history)
    (stepped : actor.step label = some (next, entries)) :
    History.Justified (fun before => WriteAllowed (history ++ before)) entries := by
  have unreported : ∀ message error content,
      .markCalled content ∉ reportStoreError message error := by
    intro message error content member
    rcases emitted_of_reportStoreError member with ⟨event, equal⟩
    cases equal
  cases transition_of_step stepped with
  | handledComplete phase =>
      rw [← List.singleton_append, History.justified_append]
      refine ⟨justified_of_no_write (by simp), ?_⟩
      rw [History.justified_singleton, List.append_nil]
      exact accountable.allowed_after_complete phase
  | acknowledgePending phase found =>
      refine justified_of_write (accountable.allowed_in_batch found ?_)
      rw [phase]
      exact List.mem_cons_self
  | markFailed => exact justified_of_no_write (by simp [unreported])
  | writeDeferred => exact justified_of_no_write (unreported _ _)
  | writeAbandoned => exact justified_of_no_write (unreported _ _)
  | _ => exact justified_of_no_write (by simp)

theorem Accountable.step {label : ActorLabel} (accountable : Accountable actor history)
    (few : (trackedIds (history ++ entries)).length < 2 ^ 64)
    (stepped : actor.step label = some (next, entries)) :
    Accountable next (history ++ entries) where
  tracking := accountable.tracking.step few stepped
  disposing := accountable.disposing.step accountable.tracking few stepped
  submitting := accountable.submitting.step accountable.tracking stepped
  justified := History.justified_append.mpr
    ⟨accountable.justified, accountable.justifiedEntries stepped⟩

theorem accountable_initial : Accountable machine.initial [] where
  tracking := Tracking.initial
  disposing := ⟨by simp, by simp, by simp⟩
  submitting := ⟨by simp [Knows, inFlight, machine], by simp [SubmittedSince]⟩
  justified := by simp

def Sound (actor : ProjectionActor) (history : List ActorEntry) : Prop :=
  (trackedIds history).length < 2 ^ 64 → Accountable actor history

theorem sound_of_run {labels : List ActorLabel}
    (runs : machine.run labels = some (actor, history)) : Sound actor history := by
  refine machine.run_invariant ?_ ?_ runs
  · intro _
    exact accountable_initial
  · intro actor history label next entries sound stepped few
    have fewBefore : (trackedIds history).length < 2 ^ 64 := by
      rw [trackedIds_append, List.length_append] at few
      omega
    exact (sound fewBefore).step few stepped

/-- The id was never issued, was let go of, or was submitted before. -/
def Stale (history : List ActorEntry) (deliveryId : DeliveryId) : Prop :=
  (∀ content, .tracked deliveryId content ∉ history) ∨ .untracked deliveryId ∈ history ∨
    SubmittedSince history deliveryId

theorem Accountable.refuses_stale {id : DeliveryId} (accountable : Accountable actor history)
    (stale : Stale history id) : actor.projection.acknowledgments.accepts id = false := by
  by_contra accepted
  simp only [AcknowledgmentState.accepts, Bool.not_eq_false, Bool.and_eq_true,
    decide_eq_true_eq] at accepted
  rcases accountable.tracking.represents with ⟨completions, represents⟩
  have pending := (represents.registered id).mp accepted.1
  rcases Option.isSome_iff_exists.mp (AList.lookup_isSome.mpr pending) with ⟨content, found⟩
  have tracked := (accountable.tracking.current id content).mp found
  rcases stale with unknown | untracked | duplicate
  · exact unknown content tracked.1
  · exact tracked.2 untracked
  · rcases accountable.submitting.kept id duplicate with already | untracked
    · exact accepted.2 already
    · exact tracked.2 untracked

theorem submit_of_refused {id : DeliveryId}
    (refused : actor.projection.acknowledgments.accepts id = false) :
    actor.step (.submit id) =
      some (actor, [.submitted id actor.projection.acknowledgments.isOpen]) := by
  have unchanged : (actor.projection.acknowledgments.submit id).state =
        actor.projection.acknowledgments ∧
      (actor.projection.acknowledgments.submit id).returned =
        actor.projection.acknowledgments.isOpen := by
    cases isOpen : actor.projection.acknowledgments.isOpen with
    | false => simp [AcknowledgmentState.submit_of_closed isOpen]
    | true => simp [AcknowledgmentState.submit_of_refused isOpen refused]
  simp only [ProjectionActor.step, submit, unchanged]
  rfl

/-- Every ledger write of a run is for a content under its one current id, and if the UI
was asked about it, for an id the UI submitted since; and a run continues in the same
way, ledger writes included, whether or not a stale id is submitted. -/
theorem run_writes_only_acknowledged {labels : List ActorLabel}
    (few : (trackedIds history).length < 2 ^ 64)
    (runs : machine.run labels = some (actor, history)) :
    (∀ before content after, history = before ++ .markCalled content :: after →
      ∃ id, Tracked before id content ∧
        (∀ other, Tracked before other content → other = id) ∧
        (.disposed id .awaitingAck ∈ before → SubmittedSince before id)) ∧
    (∀ id, Stale history id →
      ∀ more, machine.runFrom actor (.submit id :: more) =
        (machine.runFrom actor more).map fun reached =>
          (reached.1,
            .submitted id actor.projection.acknowledgments.isOpen :: reached.2)) := by
  have accountable := sound_of_run runs few
  constructor
  · intro before content after split
    exact accountable.justified before (.markCalled content) after split
  · intro id stale more
    have stepped : machine.step actor (.submit id) =
        some (actor, [.submitted id actor.projection.acknowledgments.isOpen]) :=
      submit_of_refused (accountable.refuses_stale stale)
    exact machine.runFrom_cons_of_step stepped more

/-- One message is shown, a wrong id and then its own id come back, and it is recorded. -/
theorem run_writes_only_acknowledged_for_shown_message :
    ∃ actor history,
      machine.run [.projectContent (directContent 1) false, .handled .awaitingAck, .submit 7,
        .submit 1, .processAcknowledgments, .acknowledgeNext, .acknowledged .stored] =
          some (actor, history) ∧
      .marked (directContent 1) ∈ history ∧
      ∃ id, Tracked (history.take 4) id (directContent 1) ∧
        SubmittedSince (history.take 4) id := by
  have reaches : ∃ actor, machine.run [.projectContent (directContent 1) false,
      .handled .awaitingAck, .submit 7, .submit 1, .processAcknowledgments, .acknowledgeNext,
      .acknowledged .stored] =
      some (actor, [.tracked 1 (directContent 1), .disposed 1 .awaitingAck,
        .submitted 7 true, .submitted 1 true, .markCalled (directContent 1),
        .marked (directContent 1), .untracked 1]) := ⟨_, rfl⟩
  rcases reaches with ⟨actor, runs⟩
  have writes := (run_writes_only_acknowledged (by decide) runs).1
    [.tracked 1 (directContent 1), .disposed 1 .awaitingAck, .submitted 7 true,
      .submitted 1 true] (directContent 1) _ rfl
  rcases writes with ⟨id, tracked, only, submitted⟩
  have first : (1 : DeliveryId) = id := only 1 (by simp [Tracked])
  refine ⟨actor, _, runs, by simp, id, tracked, submitted ?_⟩
  simp [← first]

end SignalPurple.ProjectionActor
