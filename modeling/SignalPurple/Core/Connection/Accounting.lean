import SignalPurple.Core.Connection
import SignalPurple.Core.Projection.Ledger
import SignalPurple.Foundation.Simulation

/-! # The ledger under the connection actor

The projection actor was verified with an arbitrary schedule of its own operations. Here
it runs inside the connection actor, which interleaves it with recovery, startup, group
synchronization and the receive stream. Every step of the connection actor is a run of
the projection actor of at most one step, so the ledger stays accountable.
-/

namespace SignalPurple.Connection

variable {connection next : Connection} {label : ConnectionLabel}
  {history entries : List ConnectionEntry}

def projectionEntry : ConnectionEntry → Option ActorEntry
  | .projection entry => some entry
  | _ => none

theorem filterMap_projection (shown : List ActorEntry) :
    (shown.map ConnectionEntry.projection).filterMap projectionEntry = shown := by
  rw [List.filterMap_map]
  exact List.filterMap_some

theorem filterMap_emitted (events : List Event) :
    (events.map ConnectionEntry.emitted).filterMap projectionEntry = [] := by
  rw [List.filterMap_map]
  exact List.filterMap_eq_nil_iff.mpr fun _ _ => rfl

theorem filterMap_of_emitted (quiet : ∀ entry ∈ entries, ∃ event, entry = .emitted event) :
    entries.filterMap projectionEntry = [] := by
  rw [List.filterMap_eq_nil_iff]
  intro entry member
  rcases quiet entry member with ⟨event, rfl⟩
  rfl

theorem filterMap_recover (error suffix : String) :
    (connection.recover error suffix).2.filterMap projectionEntry = [] := by
  simp only [recover]
  split <;> rfl

theorem follow_step {inner : ActorLabel} {reached : ProjectionActor} {shown : List ActorEntry}
    (stepped : connection.actor.step inner = some (reached, shown)) :
    ∃ followed, ProjectionActor.machine.runFrom connection.actor followed =
      some (reached, (shown.map ConnectionEntry.projection).filterMap projectionEntry) := by
  rw [filterMap_projection]
  exact ⟨[inner], ProjectionActor.machine.runFrom_singleton stepped⟩

theorem follow_nothing (same : next.actor = connection.actor)
    (quiet : entries.filterMap projectionEntry = []) :
    ∃ followed, ProjectionActor.machine.runFrom connection.actor followed =
      some (next.actor, entries.filterMap projectionEntry) := by
  refine ⟨[], ?_⟩
  rw [same, quiet]
  rfl

theorem follow (stepped : connection.step label = some (next, entries)) :
    ∃ followed, ProjectionActor.machine.runFrom connection.actor followed =
      some (next.actor, entries.filterMap projectionEntry) := by
  cases transition_of_step stepped with
  | projection allowed inside => exact follow_step inside
  | stop running inside => exact follow_step inside
  | waitWith control serving inside => exact follow_step inside
  | resumeWith control serving inside => exact follow_step inside
  | @popped content rest control idle room pop =>
      have inside : connection.actor.step (.projectContent content
          connection.session.groupsAuthoritative) =
          some (connection.actor.projectContent content
            connection.session.groupsAuthoritative) := by
        simp only [ProjectionActor.step, idle]
      exact follow_step inside
  | restart control =>
      refine follow_nothing ?_ rfl
      unfold restart
      split <;> rfl
  | introduced control =>
      rename_i groups
      cases groups <;> exact follow_nothing rfl rfl
  | loadFailed control => exact follow_nothing rfl (filterMap_emitted _)
  | receiveFailed control transient => exact follow_nothing rfl (filterMap_recover _ _)
  | reconnect control => exact follow_nothing rfl (filterMap_recover _ _)
  | resume control quiet => exact follow_nothing rfl (filterMap_of_emitted quiet)
  | _ => exact follow_nothing rfl rfl

/-- The projection actor inside the connection actor. -/
def projectionSimulation : Machine.Simulation machine ProjectionActor.machine where
  view := Connection.actor
  seen := projectionEntry
  initial := rfl
  step _ _ _ _ stepped := follow stepped

/-- Whatever the connection does, its ledger is written only for contents under their one
current delivery id, and for a message that waits for the UI only after the UI submitted
that id; and the bookkeeping of the projection actor represents its history. -/
theorem run_keeps_ledger_accountable {labels : List ConnectionLabel}
    (few : (ProjectionActor.trackedIds (history.filterMap projectionEntry)).length < 2 ^ 64)
    (runs : machine.run labels = some (connection, history)) :
    ProjectionActor.Accountable connection.actor (history.filterMap projectionEntry) := by
  have sound : ProjectionActor.Sound connection.actor (history.filterMap projectionEntry) :=
    projectionSimulation.run_property
      (fun _ _ _ inside => ProjectionActor.sound_of_run inside) runs
  exact sound few

end SignalPurple.Connection
