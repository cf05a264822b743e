import Mathlib.Data.List.Nodup
import SignalPurple.Foundation.AtomicCell
import SignalPurple.Foundation.Machine
import SignalPurple.Foundation.Words

/-! # Timestamps of messages

`MessageTimestampAllocator`, whose clones share one atomic counter. Signal tells the messages
of a device apart by their timestamps, so no two calls may return the same one, whatever the
wall clock says. A call loads the counter and then tries to exchange it; the calls of any
number of tasks are interleaved, and a load or a failed exchange may see an old value.
-/

namespace SignalPurple

inductive TimestampPhase where
  | entered
  | exchanging (previous : UInt64)
  | returned (timestamp : UInt64)
  /-- "Signal message timestamp space was exhausted" -/
  | panicked
  deriving DecidableEq

structure TimestampCall where
  wallClockMs : UInt64
  phase : TimestampPhase := .entered
  deriving DecidableEq

structure TimestampRun where
  latest : AtomicCell UInt64 := { first := 0 }
  calls : List TimestampCall := []
  deriving DecidableEq

inductive TimestampLabel where
  /-- A clone is asked for the next timestamp. -/
  | nextAt (wallClockMs : UInt64)
  | load (call : Nat) (observed : UInt64)
  | exchange (call : Nat)
  /-- The exchange fails, because of another one or for no reason. -/
  | exchangeFails (call : Nat) (observed : UInt64)
  deriving DecidableEq

/-- A successful exchange, which ends its call. -/
structure Issued where
  call : Nat
  wallClockMs : UInt64
  timestamp : UInt64
  deriving DecidableEq

namespace TimestampRun

def withPhase (run : TimestampRun) (call : Nat) (wallClockMs : UInt64) (phase : TimestampPhase) :
    TimestampRun :=
  { run with calls := run.calls.set call { wallClockMs, phase } }

/-- The value to write after `previous`, unless there is none. -/
def nextTimestamp (wallClockMs previous : UInt64) : Option UInt64 :=
  (Words.checkedAdd previous 1).map (max wallClockMs)

def step (run : TimestampRun) : TimestampLabel → Option (TimestampRun × List Issued)
  | .nextAt wallClockMs => some ({ run with calls := run.calls ++ [{ wallClockMs }] }, [])
  | .load call observed =>
      match run.calls[call]? with
      | some ⟨wallClockMs, .entered⟩ =>
          if observed ∈ run.latest.values then
            some (run.withPhase call wallClockMs (.exchanging observed), [])
          else none
      | _ => none
  | .exchange call =>
      match run.calls[call]? with
      | some ⟨wallClockMs, .exchanging previous⟩ =>
          match nextTimestamp wallClockMs previous with
          | none => some (run.withPhase call wallClockMs .panicked, [])
          | some next =>
              if previous = run.latest.latest then
                some ({ run with latest := run.latest.write next }.withPhase call wallClockMs
                  (.returned next), [⟨call, wallClockMs, next⟩])
              else none
      | _ => none
  | .exchangeFails call observed =>
      match run.calls[call]? with
      | some ⟨wallClockMs, .exchanging previous⟩ =>
          if (nextTimestamp wallClockMs previous).isSome ∧ observed ∈ run.latest.values then
            some (run.withPhase call wallClockMs (.exchanging observed), [])
          else none
      | _ => none

def machine : Machine TimestampRun TimestampLabel Issued where
  initial := {}
  step := step

/-! ## What the calls return -/

structure Allocates (run : TimestampRun) (issued : List Issued) : Prop where
  startsAtZero : run.latest.first = 0
  increasing : run.latest.Increasing UInt64.toNat
  written : run.latest.later = issued.map Issued.timestamp
  atLeast : ∀ entry ∈ issued, entry.wallClockMs ≤ entry.timestamp
  returned : ∀ (call : Nat) (wallClockMs timestamp : UInt64),
    run.calls[call]? = some ⟨wallClockMs, .returned timestamp⟩ →
      ⟨call, wallClockMs, timestamp⟩ ∈ issued
  observed : ∀ (call : Nat) (wallClockMs previous : UInt64),
    run.calls[call]? = some ⟨wallClockMs, .exchanging previous⟩ → previous ∈ run.latest.values
  panicked : ∀ (call : Nat) (wallClockMs : UInt64),
    run.calls[call]? = some ⟨wallClockMs, .panicked⟩ →
      ∃ previous ∈ run.latest.values, Words.checkedAdd previous 1 = none

variable {run next : TimestampRun} {issued entries : List Issued}

theorem call_withPhase {call other : Nat} {wallClockMs : UInt64} {phase : TimestampPhase}
    {found : TimestampCall}
    (isCall : (run.withPhase call wallClockMs phase).calls[other]? = some found) :
    other = call ∧ found = ⟨wallClockMs, phase⟩ ∨ run.calls[other]? = some found := by
  unfold withPhase at isCall
  by_cases same : call = other
  · subst same
    rw [List.getElem?_set_self'] at isCall
    cases before : run.calls[call]? with
    | none => simp [before] at isCall
    | some earlier => exact Or.inl ⟨rfl, by simpa [before] using isCall.symm⟩
  · rw [List.getElem?_set_ne same] at isCall
    exact Or.inr isCall

theorem Allocates.goOn (holds : run.Allocates issued) (call : Nat) (wallClockMs : UInt64)
    {phase : TimestampPhase} (notReturned : ∀ timestamp, phase ≠ .returned timestamp)
    (seen : ∀ previous, phase = .exchanging previous → previous ∈ run.latest.values)
    (full : phase = .panicked →
      ∃ previous ∈ run.latest.values, Words.checkedAdd previous 1 = none) :
    (run.withPhase call wallClockMs phase).Allocates (issued ++ []) := by
  rw [List.append_nil]
  refine ⟨holds.startsAtZero, holds.increasing, holds.written, holds.atLeast, ?_, ?_, ?_⟩
  · intro other wall timestamp isCall
    rcases call_withPhase isCall with ⟨_, same⟩ | before
    · cases same
      exact absurd rfl (notReturned timestamp)
    · exact holds.returned other wall timestamp before
  · intro other wall previous isCall
    rcases call_withPhase isCall with ⟨_, same⟩ | before
    · cases same
      exact seen previous rfl
    · exact holds.observed other wall previous before
  · intro other wall isCall
    rcases call_withPhase isCall with ⟨_, same⟩ | before
    · cases same
      exact full rfl
    · exact holds.panicked other wall before

theorem nextTimestamp_spec {wallClockMs previous timestamp : UInt64}
    (isNext : nextTimestamp wallClockMs previous = some timestamp) :
    previous.toNat < timestamp.toNat ∧ wallClockMs ≤ timestamp := by
  unfold nextTimestamp at isNext
  rcases Option.map_eq_some_iff.mp isNext with ⟨minimum, added, rfl⟩
  have ⟨fits, isSum⟩ := Words.toNat_of_checkedAdd added
  have isMinimum : minimum.toNat = previous.toNat + 1 := by
    rw [isSum, Words.toNat_add_of_lt fits]
    rfl
  simp only [max, UInt64.le_iff_toNat_le]
  split
  next below =>
    constructor
    · omega
    · exact below
  next above =>
    constructor
    · omega
    · exact Nat.le_refl _

theorem Allocates.issue (holds : run.Allocates issued) {call : Nat}
    {wallClockMs timestamp : UInt64}
    (isNext : nextTimestamp wallClockMs run.latest.latest = some timestamp) :
    ({ run with latest := run.latest.write timestamp }.withPhase call wallClockMs
      (.returned timestamp)).Allocates
        (issued ++ [Issued.mk call wallClockMs timestamp]) := by
  have ⟨larger, atLeast⟩ := nextTimestamp_spec isNext
  have stays : ∀ value ∈ run.latest.values, value ∈ (run.latest.write timestamp).values := by
    intro value written
    unfold AtomicCell.values AtomicCell.write
    exact List.mem_append_left _ written
  refine ⟨holds.startsAtZero, holds.increasing.write larger, ?_, ?_, ?_, ?_, ?_⟩
  · simp [withPhase, AtomicCell.write, holds.written]
  · intro entry member
    rcases List.mem_append.mp member with before | new
    · exact holds.atLeast entry before
    · rw [List.mem_singleton.mp new]
      exact atLeast
  · intro other wall returned isCall
    rcases call_withPhase isCall with ⟨rfl, same⟩ | before
    · cases same
      simp
    · exact List.mem_append_left _ (holds.returned other wall returned before)
  · intro other wall previous isCall
    rcases call_withPhase isCall with ⟨_, same⟩ | before
    · cases same
    · exact stays previous (holds.observed other wall previous before)
  · intro other wall isCall
    rcases call_withPhase isCall with ⟨_, same⟩ | before
    · cases same
    · rcases holds.panicked other wall before with ⟨previous, written, full⟩
      exact ⟨previous, stays previous written, full⟩

theorem Allocates.enter (holds : run.Allocates issued) (wallClockMs : UInt64) :
    ({ run with calls := run.calls ++ [⟨wallClockMs, .entered⟩] } : TimestampRun).Allocates
      (issued ++ []) := by
  have earlier : ∀ {call : Nat} {wall : UInt64} {phase : TimestampPhase}, phase ≠ .entered →
      (run.calls ++ [⟨wallClockMs, .entered⟩])[call]? = some ⟨wall, phase⟩ →
        run.calls[call]? = some ⟨wall, phase⟩ := by
    intro call wall phase started isCall
    rcases Nat.lt_or_ge call run.calls.length with before | after
    · rwa [List.getElem?_append_left before] at isCall
    · rw [List.getElem?_append_right after] at isCall
      have isNew := List.mem_singleton.mp (List.mem_of_getElem? isCall)
      cases isNew
      exact absurd rfl started
  rw [List.append_nil]
  refine ⟨holds.startsAtZero, holds.increasing, holds.written, holds.atLeast, ?_, ?_, ?_⟩
  · exact fun call wall timestamp isCall =>
      holds.returned call wall timestamp (earlier (by simp) isCall)
  · exact fun call wall previous isCall =>
      holds.observed call wall previous (earlier (by simp) isCall)
  · exact fun call wall isCall => holds.panicked call wall (earlier (by simp) isCall)

theorem Allocates.step (holds : run.Allocates issued) {label : TimestampLabel}
    (stepped : TimestampRun.step run label = some (next, entries)) :
    next.Allocates (issued ++ entries) := by
  cases label with
  | nextAt wallClockMs =>
      obtain ⟨rfl, rfl⟩ := Machine.reached_of_some stepped
      exact holds.enter wallClockMs
  | load call observed =>
      simp only [TimestampRun.step] at stepped
      split at stepped
      next wallClockMs isCall =>
        split at stepped
        next seen =>
          obtain ⟨rfl, rfl⟩ := Machine.reached_of_some stepped
          refine holds.goOn call wallClockMs (by simp) ?_ (by simp)
          rintro previous ⟨⟩
          exact seen
        next => cases stepped
      next => cases stepped
  | exchange call =>
      simp only [TimestampRun.step] at stepped
      split at stepped
      next wallClockMs previous isCall =>
        split at stepped
        next full =>
          obtain ⟨rfl, rfl⟩ := Machine.reached_of_some stepped
          refine holds.goOn call wallClockMs (by simp) (by simp) fun _ => ?_
          exact ⟨previous, holds.observed call wallClockMs previous isCall, by
            simpa [nextTimestamp] using full⟩
        next timestamp isNext =>
          split at stepped
          next isLatest =>
            obtain ⟨rfl, rfl⟩ := Machine.reached_of_some stepped
            exact holds.issue (isLatest ▸ isNext)
          next => cases stepped
      next => cases stepped
  | exchangeFails call observed =>
      simp only [TimestampRun.step] at stepped
      split at stepped
      next wallClockMs previous isCall =>
        split at stepped
        next fails =>
          obtain ⟨rfl, rfl⟩ := Machine.reached_of_some stepped
          refine holds.goOn call wallClockMs (by simp) ?_ (by simp)
          rintro previous ⟨⟩
          exact fails.2
        next => cases stepped
      next => cases stepped

/-- The timestamps in the order of their exchanges, and the calls that return them. A call
panics only if the last of all timestamps was issued. -/
structure TimestampLaw (run : TimestampRun) (issued : List Issued) : Prop where
  increasing : issued.Pairwise fun earlier later => earlier.timestamp < later.timestamp
  atLeast : ∀ entry ∈ issued, entry.wallClockMs ≤ entry.timestamp
  returned : ∀ (call : Nat) (wallClockMs timestamp : UInt64),
    run.calls[call]? = some ⟨wallClockMs, .returned timestamp⟩ →
      ⟨call, wallClockMs, timestamp⟩ ∈ issued
  distinct : ∀ (one other : Nat) (first second timestamp : UInt64),
    run.calls[one]? = some ⟨first, .returned timestamp⟩ →
      run.calls[other]? = some ⟨second, .returned timestamp⟩ → one = other
  panicked : ∀ (call : Nat) (wallClockMs : UInt64),
    run.calls[call]? = some ⟨wallClockMs, .panicked⟩ →
      ∃ entry ∈ issued, entry.timestamp.toNat = 2 ^ 64 - 1

theorem Allocates.law (holds : run.Allocates issued) : run.TimestampLaw issued := by
  have increasing : issued.Pairwise fun earlier later => earlier.timestamp < later.timestamp := by
    have ordered := (List.pairwise_cons.mp holds.increasing).2
    rw [holds.written, List.pairwise_map] at ordered
    exact ordered.imp fun below => UInt64.lt_iff_toNat_lt.mpr below
  refine ⟨increasing, holds.atLeast, holds.returned, ?_, ?_⟩
  · intro one other first second timestamp isOne isOther
    have oneIssued := holds.returned one first timestamp isOne
    have otherIssued := holds.returned other second timestamp isOther
    have distinct : (issued.map Issued.timestamp).Nodup := by
      rw [List.Nodup, List.pairwise_map]
      exact increasing.imp fun below same =>
        absurd (same ▸ UInt64.lt_iff_toNat_lt.mp below) (Nat.lt_irrefl _)
    have same := List.inj_on_of_nodup_map distinct oneIssued otherIssued rfl
    exact congrArg Issued.call same
  · intro call wallClockMs isCall
    rcases holds.panicked call wallClockMs isCall with ⟨previous, written, full⟩
    have isLast : previous.toNat = 2 ^ 64 - 1 := by
      have bound := previous.toNat_lt
      unfold Words.checkedAdd at full
      split at full
      next => cases full
      next above =>
        have one : (1 : UInt64).toNat = 1 := rfl
        omega
    rcases List.mem_cons.mp written with isFirst | later
    · rw [isFirst, holds.startsAtZero] at isLast
      cases isLast
    · rw [holds.written] at later
      rcases List.mem_map.mp later with ⟨entry, member, rfl⟩
      exact ⟨entry, member, isLast⟩

/-- All timestamps of a run differ, each is as late as the clock of its caller, and they grow
in the order of the exchanges. -/
theorem timestampLaw_of_run {labels : List TimestampLabel}
    (runs : machine.run labels = some (run, issued)) : run.TimestampLaw issued := by
  have starts : machine.initial.Allocates [] := by
    constructor <;> simp [machine, AtomicCell.Increasing, AtomicCell.values]
  have holds : run.Allocates issued :=
    machine.run_invariant starts (fun _ _ _ _ _ holds stepped => holds.step stepped) runs
  exact holds.law

/-- Two calls with the same clock, the first of which loses an exchange. -/
theorem timestampLaw_of_contention :
    ∃ run issued, machine.run [.nextAt 5, .nextAt 5, .load 0 0, .load 1 0, .exchange 1,
        .exchangeFails 0 0, .exchangeFails 0 5, .exchange 0] = some (run, issued) ∧
      run.TimestampLaw issued := by
  have defined : (machine.run [.nextAt 5, .nextAt 5, .load 0 0, .load 1 0, .exchange 1,
      .exchangeFails 0 0, .exchangeFails 0 5, .exchange 0]).isSome = true := by
    decide +kernel
  rcases Option.isSome_iff_exists.mp defined with ⟨⟨run, issued⟩, runs⟩
  exact ⟨run, issued, runs, timestampLaw_of_run runs⟩

end TimestampRun

end SignalPurple
