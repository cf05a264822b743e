import Mathlib.Data.List.Basic

/-! # Programs that may fault

Straight-line code over a state, as C code is: it reads and writes the state, shows
something to an observer, and faults when it follows a pointer that points nowhere. A
fault is the absence of a result. `Ensures` is total correctness: the program comes to its
end without a fault, and then the postcondition holds of its result, of the state and of
everything that was shown so far.
-/

namespace SignalPurple

def Program (State Entry Result : Type) : Type :=
  State → Option (Result × State × List Entry)

namespace Program

variable {State Entry Result Final Item : Type}

instance : Monad (Program State Entry) where
  pure result := fun state => some (result, state, [])
  bind program rest := fun state =>
    match program state with
    | none => none
    | some (result, middle, first) =>
        match rest result middle with
        | none => none
        | some (final, last, later) => some (final, last, first ++ later)

def fault : Program State Entry Result := fun _ => none

def read : Program State Entry State := fun state => some (state, state, [])

def write (change : State → State) : Program State Entry Unit := fun state =>
  some ((), change state, [])

def emit (entry : Entry) : Program State Entry Unit := fun state => some ((), state, [entry])

/-- Follow a pointer. -/
def require : Option Result → Program State Entry Result
  | none => fault
  | some result => pure result

def forEach (body : Item → Program State Entry Unit) : List Item → Program State Entry Unit
  | [] => pure ()
  | item :: later => do
      body item
      forEach body later

/-! ## Total correctness -/

def Ensures (program : Program State Entry Result) (state : State) (history : List Entry)
    (post : Result → State → List Entry → Prop) : Prop :=
  ∃ result next entries, program state = some (result, next, entries) ∧
    post result next (history ++ entries)

variable {program : Program State Entry Result} {state : State} {history : List Entry}

theorem Ensures.mono {post weaker : Result → State → List Entry → Prop}
    (ensures : program.Ensures state history post)
    (implies : ∀ result next shown, post result next shown → weaker result next shown) :
    program.Ensures state history weaker := by
  rcases ensures with ⟨result, next, entries, ends, holds⟩
  exact ⟨result, next, entries, ends, implies _ _ _ holds⟩

theorem ensures_of_eq {result : Result} {next : State} {entries : List Entry}
    {post : Result → State → List Entry → Prop}
    (ends : program state = some (result, next, entries)) :
    program.Ensures state history post ↔ post result next (history ++ entries) := by
  simp [Ensures, ends]

theorem ensures_congr {other : Program State Entry Result}
    {post : Result → State → List Entry → Prop} (same : program state = other state) :
    program.Ensures state history post ↔ other.Ensures state history post := by
  rw [Ensures, same, Ensures]

@[simp] theorem ensures_pure {result : Result} {post : Result → State → List Entry → Prop} :
    (pure result : Program State Entry Result).Ensures state history post ↔
      post result state history := by
  rw [ensures_of_eq rfl, List.append_nil]

theorem ensures_bind {rest : Result → Program State Entry Final}
    {post : Final → State → List Entry → Prop} :
    (program >>= rest).Ensures state history post ↔
      program.Ensures state history fun result next shown =>
        (rest result).Ensures next shown post := by
  simp only [Ensures, bind]
  cases program state with
  | none => simp
  | some first =>
      cases rest first.1 first.2.1 with
      | none => grind
      | some last => grind

@[simp] theorem ensures_read {post : State → State → List Entry → Prop} :
    (read : Program State Entry State).Ensures state history post ↔ post state state history := by
  rw [ensures_of_eq rfl, List.append_nil]

@[simp] theorem ensures_write {change : State → State}
    {post : Unit → State → List Entry → Prop} :
    (write change : Program State Entry Unit).Ensures state history post ↔
      post () (change state) history := by
  rw [ensures_of_eq rfl, List.append_nil]

@[simp] theorem ensures_emit {entry : Entry} {post : Unit → State → List Entry → Prop} :
    (emit entry : Program State Entry Unit).Ensures state history post ↔
      post () state (history ++ [entry]) := by
  rw [ensures_of_eq rfl]

@[simp] theorem ensures_require {result : Result}
    {post : Result → State → List Entry → Prop} :
    (require (some result) : Program State Entry Result).Ensures state history post ↔
      post result state history :=
  ensures_pure

/-- A loop whose body turns what holds of the items from one on into what holds of the
items after it. -/
theorem ensures_forEach {body : Item → Program State Entry Unit}
    (Holds : List Item → State → List Entry → Prop)
    (each : ∀ item later next shown, Holds (item :: later) next shown →
      (body item).Ensures next shown fun _ => Holds later) (items : List Item) :
    ∀ {state : State} {history : List Entry}, Holds items state history →
      (forEach body items).Ensures state history fun _ => Holds [] := by
  induction items with
  | nil =>
      intro state history holds
      exact ensures_pure.mpr holds
  | cons item later induction =>
      intro state history holds
      rw [forEach, ensures_bind]
      apply (each item later state history holds).mono
      intro _ next shown continues
      exact induction continues

end Program

end SignalPurple
