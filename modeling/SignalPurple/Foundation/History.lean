import Mathlib.Data.List.Basic

/-! # Justified histories

A history lists observations in the order they were made. Many run properties
say that an observation of one kind is only made after certain others, that
is, they constrain every entry by the entries before it.
-/

namespace SignalPurple

namespace History

variable {Entry : Type}

/-- Every entry is justified by the part of the history before it. -/
def Justified (because : List Entry → Entry → Prop) (history : List Entry) :
    Prop :=
  ∀ before entry after, history = before ++ entry :: after →
    because before entry

@[simp] theorem justified_nil (because : List Entry → Entry → Prop) :
    Justified because [] := by
  intro before entry after split
  simp at split

theorem justified_append {because : List Entry → Entry → Prop}
    {history entries : List Entry} :
    Justified because (history ++ entries) ↔
      Justified because history ∧
        Justified (fun before => because (history ++ before)) entries := by
  constructor
  · intro justified
    constructor
    · rintro before entry after rfl
      exact justified before entry (after ++ entries) (by simp)
    · rintro before entry after rfl
      exact justified (history ++ before) entry after (by simp)
  · rintro ⟨earlier, later⟩ before entry after split
    rcases List.append_eq_append_iff.mp split with
      ⟨overlap, rfl, entriesSplit⟩ | ⟨overlap, historySplit, tailSplit⟩
    · exact later overlap entry after entriesSplit
    · cases overlap with
      | nil =>
          subst historySplit
          simpa using later [] entry after (by simpa using tailSplit.symm)
      | cons head rest =>
          rw [List.cons_append, List.cons.injEq] at tailSplit
          obtain ⟨rfl, rfl⟩ := tailSplit
          exact earlier before entry rest historySplit

@[simp] theorem justified_singleton {because : List Entry → Entry → Prop}
    {entry : Entry} : Justified because [entry] ↔ because [] entry := by
  constructor
  · intro justified
    exact justified [] entry [] rfl
  · intro holds before other after split
    cases before with
    | nil =>
        simp only [List.nil_append, List.cons.injEq] at split
        obtain ⟨rfl, _⟩ := split
        exact holds
    | cons head rest => simp at split

/-- Something was started, and nothing that ends it was observed since. -/
def Since (starts ends : Entry → Prop) (history : List Entry) : Prop :=
  ∃ before entry after, history = before ++ entry :: after ∧ starts entry ∧
    ∀ later ∈ after, ¬ends later

@[simp] theorem since_nil (starts ends : Entry → Prop) : ¬Since starts ends [] := by
  rintro ⟨before, entry, after, split, _⟩
  simp at split

theorem since_concat {starts ends : Entry → Prop} (history : List Entry) (entry : Entry) :
    Since starts ends (history ++ [entry]) ↔
      starts entry ∨ Since starts ends history ∧ ¬ends entry := by
  constructor
  · rintro ⟨before, started, after, split, isStart, goesOn⟩
    rcases List.eq_nil_or_concat' after with rfl | ⟨earlier, last, rfl⟩
    · have isLast := (List.append_inj' split rfl).2
      exact Or.inl (List.singleton_inj.mp isLast ▸ isStart)
    · have whole : history ++ [entry] = (before ++ started :: earlier) ++ [last] := by
        simpa using split
      have ⟨same, isLast⟩ := List.append_inj' whole rfl
      have ⟨inEarlier, notLast⟩ : (∀ later ∈ earlier, ¬ends later) ∧ ¬ends last := by
        simpa [or_imp, forall_and] using goesOn
      exact Or.inr ⟨⟨before, started, earlier, same, isStart, inEarlier⟩,
        List.singleton_inj.mp isLast ▸ notLast⟩
  · rintro (isStart | ⟨⟨before, started, after, rfl, isStart, goesOn⟩, notEnd⟩)
    · exact ⟨history, entry, [], rfl, isStart, by simp⟩
    · refine ⟨before, started, after ++ [entry], by simp, isStart, ?_⟩
      simpa [or_imp, forall_and] using ⟨goesOn, notEnd⟩

theorem Since.append {starts ends : Entry → Prop} {history : List Entry}
    (since : Since starts ends history) {entries : List Entry}
    (goesOn : ∀ entry ∈ entries, ¬ends entry) : Since starts ends (history ++ entries) := by
  rcases since with ⟨before, entry, after, rfl, isStart, before_goesOn⟩
  refine ⟨before, entry, after ++ entries, by simp, isStart, fun later member => ?_⟩
  exact (List.mem_append.mp member).elim (before_goesOn later) (goesOn later)

/-- Entries that do not start it can only end it. -/
theorem since_append_of_no_start {starts ends : Entry → Prop} (history : List Entry)
    {entries : List Entry} (noStart : ∀ entry ∈ entries, ¬starts entry) :
    Since starts ends (history ++ entries) ↔
      Since starts ends history ∧ ∀ entry ∈ entries, ¬ends entry := by
  induction entries generalizing history with
  | nil => simp
  | cons entry later induction =>
      have ⟨first, rest⟩ := List.forall_mem_cons.mp noStart
      rw [List.append_cons, induction _ rest, since_concat, List.forall_mem_cons]
      tauto

/-- Entries that neither start nor end it make no difference. -/
theorem since_append_of_neutral {starts ends : Entry → Prop} (history : List Entry)
    {entries : List Entry} (neutral : ∀ entry ∈ entries, ¬starts entry ∧ ¬ends entry) :
    Since starts ends (history ++ entries) ↔ Since starts ends history := by
  rw [since_append_of_no_start history fun entry member => (neutral entry member).1]
  exact and_iff_left fun entry member => (neutral entry member).2

/-- One observation was made, and the other after it. -/
def Precedes (first second : Entry) (history : List Entry) : Prop :=
  [first, second].Sublist history

theorem precedes_append {first second : Entry} {history entries : List Entry} :
    Precedes first second (history ++ entries) ↔
      Precedes first second history ∨ first ∈ history ∧ second ∈ entries ∨
        Precedes first second entries := by
  unfold Precedes
  constructor
  · intro ordered
    rcases List.sublist_append_iff.mp ordered with ⟨before, after, split, earlier, later⟩
    rcases List.cons_eq_append_iff.mp split with ⟨rfl, rfl⟩ | ⟨rest, rfl, isRest⟩
    · exact Or.inr (Or.inr later)
    · rcases List.cons_eq_append_iff.mp isRest with ⟨rfl, rfl⟩ | ⟨nothing, rfl, isNothing⟩
      · exact Or.inr (Or.inl ⟨List.singleton_sublist.mp earlier, List.singleton_sublist.mp later⟩)
      · cases (List.nil_eq_append_iff.mp isNothing).1
        exact Or.inl earlier
  · rintro (earlier | ⟨isFirst, isSecond⟩ | later)
    · exact earlier.trans (List.sublist_append_left _ _)
    · exact (List.singleton_sublist.mpr isFirst).append (List.singleton_sublist.mpr isSecond)
    · exact later.trans (List.sublist_append_right _ _)

theorem Precedes.append {first second : Entry} {history : List Entry}
    (ordered : Precedes first second history) (entries : List Entry) :
    Precedes first second (history ++ entries) :=
  precedes_append.mpr (Or.inl ordered)

theorem precedes_of_mem {first second : Entry} {history entries : List Entry}
    (earlier : first ∈ history) (later : second ∈ entries) :
    Precedes first second (history ++ entries) :=
  precedes_append.mpr (Or.inr (Or.inl ⟨earlier, later⟩))

theorem Precedes.mem {first second : Entry} {history : List Entry}
    (ordered : Precedes first second history) : first ∈ history ∧ second ∈ history :=
  ⟨List.Sublist.subset ordered List.mem_cons_self,
    List.Sublist.subset ordered (List.mem_cons_of_mem _ List.mem_cons_self)⟩

theorem justified_append_of_forall {because : List Entry → Entry → Prop}
    {history entries : List Entry} (justified : Justified because history)
    (always : ∀ entry ∈ entries, ∀ earlier, because earlier entry) :
    Justified because (history ++ entries) := by
  rw [justified_append]
  refine ⟨justified, ?_⟩
  rintro before entry after rfl
  exact always entry (by simp) _

theorem justified_concat {because : List Entry → Entry → Prop} {history : List Entry}
    {entry : Entry} (justified : Justified because history) (holds : because history entry) :
    Justified because (history ++ [entry]) := by
  rw [justified_append, justified_singleton, List.append_nil]
  exact ⟨justified, holds⟩

/-- Entries whose keys are listed without repetition are determined by their key. -/
theorem eq_of_same_key {Key : Type} {key : Entry → Option Key} {history : List Entry}
    (distinct : (history.filterMap key).Nodup) {one other : Entry} {value : Key}
    (oneMember : one ∈ history) (otherMember : other ∈ history)
    (oneKey : key one = some value) (otherKey : key other = some value) : one = other := by
  induction history with
  | nil => cases oneMember
  | cons head tail induction =>
      cases headKey : key head with
      | none =>
          rw [List.filterMap_cons_none headKey] at distinct
          have notOne : one ≠ head := fun same => by simp [same, headKey] at oneKey
          have notOther : other ≠ head := fun same => by simp [same, headKey] at otherKey
          exact induction distinct ((List.mem_cons.mp oneMember).resolve_left notOne)
            ((List.mem_cons.mp otherMember).resolve_left notOther)
      | some found =>
          rw [List.filterMap_cons_some headKey, List.nodup_cons] at distinct
          rcases List.mem_cons.mp oneMember with rfl | oneLater
          · rcases List.mem_cons.mp otherMember with rfl | otherLater
            · rfl
            · rw [oneKey, Option.some.injEq] at headKey
              exact absurd (List.mem_filterMap.mpr ⟨other, otherLater, otherKey⟩)
                (headKey ▸ distinct.1)
          · rcases List.mem_cons.mp otherMember with rfl | otherLater
            · rw [otherKey, Option.some.injEq] at headKey
              exact absurd (List.mem_filterMap.mpr ⟨one, oneLater, oneKey⟩)
                (headKey ▸ distinct.1)
            · exact induction distinct.2 oneLater otherLater

end History

end SignalPurple
