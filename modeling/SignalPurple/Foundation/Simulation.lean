import SignalPurple.Foundation.Machine

/-! # Simulations between machines

A component is often verified alone and then embedded in a larger machine. A simulation
says that every step of the larger machine is some run of the component, which may be
empty, so whatever holds after every run of the component holds inside the larger one.

An expansion goes the other way: what is one step of a machine takes several of a finer one,
which has all the runs of the first and others besides.
-/

namespace SignalPurple.Machine

variable {State Label Entry : Type} {Inner InnerLabel InnerEntry : Type}

/-- Every step of `machine`, seen through `view` and `seen`, is a run of `inner`. -/
structure Simulation (machine : Machine State Label Entry)
    (inner : Machine Inner InnerLabel InnerEntry) where
  view : State → Inner
  seen : Entry → Option InnerEntry
  initial : view machine.initial = inner.initial
  step : ∀ state label next entries, machine.step state label = some (next, entries) →
    ∃ followed, inner.runFrom (view state) followed = some (view next, entries.filterMap seen)

namespace Simulation

variable {machine : Machine State Label Entry} {inner : Machine Inner InnerLabel InnerEntry}

theorem runFrom (simulation : Simulation machine inner) {labels : List Label}
    {state final : State} {history : List Entry}
    (runs : machine.runFrom state labels = some (final, history)) :
    ∃ followed, inner.runFrom (simulation.view state) followed =
      some (simulation.view final, history.filterMap simulation.seen) := by
  induction labels generalizing state history with
  | nil =>
      cases runs
      exact ⟨[], rfl⟩
  | cons label labels induction =>
      rcases machine.runFrom_cons_eq_some.mp runs with
        ⟨middle, first, rest, stepped, continued, rfl⟩
      rcases simulation.step state label middle first stepped with ⟨started, begins⟩
      rcases induction continued with ⟨later, finishes⟩
      refine ⟨started ++ later, inner.runFrom_append_eq_some.mpr ?_⟩
      exact ⟨_, _, _, begins, finishes, List.filterMap_append⟩

/-- What holds after every run of the component holds of its view after every run. -/
theorem run_property (simulation : Simulation machine inner)
    {Holds : Inner → List InnerEntry → Prop}
    (sound : ∀ labels state history, inner.run labels = some (state, history) →
      Holds state history)
    {labels : List Label} {final : State} {history : List Entry}
    (runs : machine.run labels = some (final, history)) :
    Holds (simulation.view final) (history.filterMap simulation.seen) := by
  rcases simulation.runFrom runs with ⟨followed, inside⟩
  apply sound followed
  rw [simulation.initial] at inside
  exact inside

end Simulation

/-- Every step of `machine` is a run of `fine` from a state that stands for the first one. -/
structure Expansion (machine : Machine State Label Entry)
    (fine : Machine Inner InnerLabel InnerEntry) where
  place : State → Inner
  shown : InnerEntry → Option Entry
  initial : place machine.initial = fine.initial
  step : ∀ state label next entries, machine.step state label = some (next, entries) →
    ∃ followed history, fine.runFrom (place state) followed = some (place next, history) ∧
      history.filterMap shown = entries

namespace Expansion

variable {machine : Machine State Label Entry} {fine : Machine Inner InnerLabel InnerEntry}

theorem runFrom (expansion : Expansion machine fine) {labels : List Label}
    {state final : State} {history : List Entry}
    (runs : machine.runFrom state labels = some (final, history)) :
    ∃ followed entries,
      fine.runFrom (expansion.place state) followed = some (expansion.place final, entries) ∧
        entries.filterMap expansion.shown = history := by
  induction labels generalizing state history with
  | nil =>
      cases runs
      exact ⟨[], [], rfl, rfl⟩
  | cons label labels induction =>
      rcases machine.runFrom_cons_eq_some.mp runs with
        ⟨middle, first, rest, stepped, continued, rfl⟩
      rcases expansion.step state label middle first stepped with
        ⟨started, entries, begins, rfl⟩
      rcases induction continued with ⟨later, more, finishes, rfl⟩
      refine ⟨started ++ later, entries ++ more, ?_, List.filterMap_append⟩
      exact fine.runFrom_append_eq_some.mpr ⟨_, _, _, begins, finishes, rfl⟩

end Expansion

end SignalPurple.Machine
