import Mathlib.Data.List.Basic

/-! # Observed machines

A machine is a partial transition function whose transitions report what an
observer of the program could see. Everything the environment decides (which
thread moves, how a store call ends) is part of the label, so a run is
determined by its labels and can be evaluated on concrete inputs.
-/

namespace SignalPurple

structure Machine (State Label Entry : Type) where
  initial : State
  step : State → Label → Option (State × List Entry)

namespace Machine

variable {State Label Entry : Type} (machine : Machine State Label Entry)

/-- Follow the labels from `state` and collect the observations in order. The
run is undefined as soon as one label is not enabled. -/
def runFrom (state : State) : List Label → Option (State × List Entry)
  | [] => some (state, [])
  | label :: labels =>
      match machine.step state label with
      | none => none
      | some (middle, first) =>
          match runFrom middle labels with
          | none => none
          | some (final, rest) => some (final, first ++ rest)

def run (labels : List Label) : Option (State × List Entry) :=
  machine.runFrom machine.initial labels

@[simp] theorem runFrom_nil (state : State) :
    machine.runFrom state [] = some (state, []) := rfl

theorem runFrom_cons_eq_some {state final : State} {label : Label}
    {labels : List Label} {history : List Entry} :
    machine.runFrom state (label :: labels) = some (final, history) ↔
      ∃ middle first rest, machine.step state label = some (middle, first) ∧
        machine.runFrom middle labels = some (final, rest) ∧
        history = first ++ rest := by
  constructor
  · intro runs
    unfold runFrom at runs
    split at runs
    next => cases runs
    next middle first stepped =>
      split at runs
      next => cases runs
      next reached rest continued =>
        cases runs
        exact ⟨middle, first, rest, stepped, continued, rfl⟩
  · rintro ⟨middle, first, rest, stepped, continued, rfl⟩
    simp [runFrom, stepped, continued]

theorem runFrom_cons_of_step {state next : State} {label : Label} {entries : List Entry}
    (stepped : machine.step state label = some (next, entries)) (labels : List Label) :
    machine.runFrom state (label :: labels) =
      (machine.runFrom next labels).map fun reached => (reached.1, entries ++ reached.2) := by
  cases continued : machine.runFrom next labels with
  | none => simp [runFrom, stepped, continued]
  | some reached => simp [runFrom, stepped, continued]

theorem runFrom_singleton {state next : State} {label : Label} {entries : List Entry}
    (stepped : machine.step state label = some (next, entries)) :
    machine.runFrom state [label] = some (next, entries) := by
  rw [runFrom_cons_of_step machine stepped]
  simp

theorem runFrom_append_eq_some {state final : State}
    {labels more : List Label} {history : List Entry} :
    machine.runFrom state (labels ++ more) = some (final, history) ↔
      ∃ middle first rest, machine.runFrom state labels = some (middle, first) ∧
        machine.runFrom middle more = some (final, rest) ∧
        history = first ++ rest := by
  induction labels generalizing state history with
  | nil => simp
  | cons label labels induction =>
      rw [List.cons_append, runFrom_cons_eq_some]
      constructor
      · rintro ⟨next, entries, rest, stepped, continued, rfl⟩
        obtain ⟨middle, first, last, started, finished, rfl⟩ :=
          induction.mp continued
        refine ⟨middle, entries ++ first, last, ?_, finished, by simp⟩
        exact machine.runFrom_cons_eq_some.mpr
          ⟨next, entries, first, stepped, started, rfl⟩
      · rintro ⟨middle, first, rest, started, finished, rfl⟩
        obtain ⟨next, entries, later, stepped, continued, rfl⟩ :=
          machine.runFrom_cons_eq_some.mp started
        exact ⟨next, entries, later ++ rest, stepped,
          induction.mpr ⟨middle, later, rest, continued, finished, rfl⟩,
          by simp⟩

theorem reached_of_some {reached : State × List Entry} {next : State} {entries : List Entry}
    (stepped : some reached = some (next, entries)) : reached.1 = next ∧ reached.2 = entries := by
  rw [Option.some.inj stepped]
  exact ⟨rfl, rfl⟩

/-! ## Invariants -/

/-- Every label of the run is taken in a state that meets `condition`. -/
def StepsMeet (condition : State → Label → Prop) (state : State) :
    List Label → Prop
  | [] => True
  | label :: labels =>
      condition state label ∧
        ∀ next entries, machine.step state label = some (next, entries) →
          StepsMeet condition next labels

theorem stepsMeet_of_forall {condition : State → Label → Prop} :
    ∀ {state : State} {labels : List Label},
      (∀ label ∈ labels, ∀ state, condition state label) →
        machine.StepsMeet condition state labels
  | _, [], _ => trivial
  | state, label :: labels, meets => by
      refine ⟨meets label (by simp) state, fun next entries _ => ?_⟩
      exact stepsMeet_of_forall fun other member =>
        meets other (List.mem_cons_of_mem _ member)

theorem stepsMeet_append {condition : State → Label → Prop} {more : List Label} :
    ∀ {state : State} {labels : List Label}, machine.StepsMeet condition state labels →
      (∀ middle entries, machine.runFrom state labels = some (middle, entries) →
        machine.StepsMeet condition middle more) →
      machine.StepsMeet condition state (labels ++ more)
  | state, [], _, later => later state [] rfl
  | state, label :: labels, meets, later => by
      refine ⟨meets.1, fun next entries stepped => ?_⟩
      refine stepsMeet_append (meets.2 next entries stepped) ?_
      intro middle rest continued
      exact later middle (entries ++ rest)
        (machine.runFrom_cons_eq_some.mpr ⟨next, entries, rest, stepped, continued, rfl⟩)

/-- `StepsMeet` for a condition that can be computed along the run. -/
def checkSteps (check : State → Label → Bool) (state : State) : List Label → Bool
  | [] => true
  | label :: labels =>
      check state label &&
        match machine.step state label with
        | none => true
        | some (next, _) => checkSteps check next labels

theorem stepsMeet_of_checkSteps {condition : State → Label → Prop} {check : State → Label → Bool}
    (checks : ∀ state label, check state label = true → condition state label) :
    ∀ {state : State} {labels : List Label}, machine.checkSteps check state labels = true →
      machine.StepsMeet condition state labels
  | _, [], _ => trivial
  | state, label :: labels, checked => by
      have ⟨first, later⟩ := (Bool.and_eq_true _ _).mp checked
      refine ⟨checks state label first, fun next entries stepped => ?_⟩
      rw [stepped] at later
      exact stepsMeet_of_checkSteps checks later

/-- A condition on states and one on labels, both met all along, may be combined. -/
theorem StepsMeet.combine {machine : Machine State Label Entry}
    {condition both : State → Label → Prop} {allowed : Label → Prop}
    (combined : ∀ state label, condition state label → allowed label → both state label) :
    ∀ {state : State} {labels : List Label}, machine.StepsMeet condition state labels →
      (∀ label ∈ labels, allowed label) → machine.StepsMeet both state labels
  | _, [], _, _ => trivial
  | state, label :: labels, meets, allAllowed => by
      refine ⟨combined state label meets.1 (allAllowed label (by simp)), ?_⟩
      intro next entries stepped
      exact (meets.2 next entries stepped).combine combined fun other member =>
        allAllowed other (List.mem_cons_of_mem _ member)

/-- What holds before a run and survives every step that meets the condition
holds after the run. The invariant may speak about the observations so far. -/
theorem runFrom_invariant {condition : State → Label → Prop}
    {Holds : State → List Entry → Prop}
    (preserved : ∀ state history label next entries, Holds state history →
      condition state label → machine.step state label = some (next, entries) →
        Holds next (history ++ entries)) :
    ∀ {labels : List Label} {state final : State} {history later : List Entry},
      Holds state history → machine.StepsMeet condition state labels →
        machine.runFrom state labels = some (final, later) →
          Holds final (history ++ later)
  | [], state, final, history, later, holds, _, runs => by
      cases runs
      simpa using holds
  | label :: labels, state, final, history, later, holds, meets, runs => by
      obtain ⟨middle, first, rest, stepped, continued, rfl⟩ :=
        machine.runFrom_cons_eq_some.mp runs
      rw [← List.append_assoc]
      exact runFrom_invariant preserved
        (preserved state history label middle first holds meets.1 stepped)
        (meets.2 middle first stepped) continued

theorem run_invariant_of_steps {condition : State → Label → Prop}
    {Holds : State → List Entry → Prop} (start : Holds machine.initial [])
    (preserved : ∀ state history label next entries, Holds state history →
      condition state label → machine.step state label = some (next, entries) →
        Holds next (history ++ entries))
    {labels : List Label} {final : State} {history : List Entry}
    (meets : machine.StepsMeet condition machine.initial labels)
    (runs : machine.run labels = some (final, history)) :
    Holds final history := by
  simpa using machine.runFrom_invariant preserved start meets runs

theorem run_invariant {Holds : State → List Entry → Prop}
    (start : Holds machine.initial [])
    (preserved : ∀ state history label next entries, Holds state history →
      machine.step state label = some (next, entries) →
        Holds next (history ++ entries))
    {labels : List Label} {final : State} {history : List Entry}
    (runs : machine.run labels = some (final, history)) :
    Holds final history := by
  have meets : machine.StepsMeet (fun _ _ => True) machine.initial labels :=
    machine.stepsMeet_of_forall fun _ _ _ => trivial
  exact machine.run_invariant_of_steps start
    (fun state earlier label next entries holds _ =>
      preserved state earlier label next entries holds) meets runs

end Machine

end SignalPurple
