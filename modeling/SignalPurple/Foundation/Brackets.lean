import SignalPurple.Foundation.History

/-! # Bracketed histories

Several producers write to one history. A producer opens a bracket, writes into it and
closes it again; a producer that is cut off in between leaves its bracket open until
another one closes it. Some entries belong outside of every bracket. The rules here keep
the brackets apart as long as at most one producer is live.
-/

namespace SignalPurple

/-- How the entries of a history are read. Who opens a bracket writes that entry. -/
structure Brackets (Entry Producer : Type) where
  opens : Entry → Option Producer
  closes : Entry → Bool
  isOutside : Entry → Bool
  author : Entry → Option Producer
  cutOff : Entry → Option Producer
  author_of_opens : ∀ {entry producer}, opens entry = some producer →
    author entry = some producer
  cutOff_of_author : ∀ {entry producer}, author entry = some producer → cutOff entry = none

namespace Brackets

variable {Entry Producer : Type} (brackets : Brackets Entry Producer)

/-- The producer opened a bracket, and none was closed since. -/
def IsOpen (producer : Producer) (history : List Entry) : Prop :=
  ∃ before entry after, history = before ++ entry :: after ∧
    brackets.opens entry = some producer ∧ ∀ later ∈ after, brackets.closes later = false

def IsCutOff (producer : Producer) (history : List Entry) : Prop :=
  ∃ entry ∈ history, brackets.cutOff entry = some producer

/-- Inside an open bracket nothing stands that belongs outside, and another bracket is
opened only after the producer of the first was cut off, which then writes no more. -/
def KeptApart (history : List Entry) : Prop :=
  ∀ before first between later producer, history = before ++ first :: between ++ later →
    brackets.opens first = some producer →
    (∀ entry ∈ between, brackets.closes entry = false) →
    (∀ entry ∈ between, brackets.isOutside entry = false) ∧
    ∀ inner second rest, between = inner ++ second :: rest →
      (brackets.opens second).isSome = true →
      brackets.IsCutOff producer inner ∧
        ∀ entry ∈ second :: rest ++ later, brackets.author entry ≠ some producer

/-- What the part of the history before an entry has to say for it. -/
structure Allows (before : List Entry) (entry : Entry) : Prop where
  outside : brackets.isOutside entry = true → ∀ producer, ¬ brackets.IsOpen producer before
  reopened : (brackets.opens entry).isSome = true → ∀ producer,
    brackets.IsOpen producer before → brackets.IsCutOff producer before
  live : ∀ producer, brackets.author entry = some producer →
    ¬ brackets.IsCutOff producer before

variable {brackets} {history entries : List Entry} {producer : Producer}

theorem isCutOff_append :
    brackets.IsCutOff producer (history ++ entries) ↔
      brackets.IsCutOff producer history ∨ brackets.IsCutOff producer entries := by
  simp [IsCutOff, or_and_right, exists_or]

theorem not_isOpen_nil (producer : Producer) : ¬ brackets.IsOpen producer [] := by
  rintro ⟨before, entry, after, split, _, _⟩
  simp at split

theorem isOpen_concat {entry : Entry} :
    brackets.IsOpen producer (history ++ [entry]) ↔
      brackets.opens entry = some producer ∨
        brackets.IsOpen producer history ∧ brackets.closes entry = false := by
  constructor
  · rintro ⟨before, first, after, split, opened, unclosed⟩
    rcases List.eq_nil_or_concat' after with rfl | ⟨earlier, last, rfl⟩
    · have same := List.append_inj' split rfl
      have isFirst : entry = first := by simpa using same.2
      exact Or.inl (isFirst ▸ opened)
    · have whole : history ++ [entry] = (before ++ first :: earlier) ++ [last] := by
        simpa using split
      have same := List.append_inj' whole rfl
      have isLast : entry = last := by simpa using same.2
      refine Or.inr ⟨⟨before, first, earlier, same.1, opened, ?_⟩, ?_⟩
      · exact fun later member => unclosed later (List.mem_append_left _ member)
      · exact isLast ▸ unclosed last (by simp)
  · rintro (opened | ⟨⟨before, first, after, rfl, opened, unclosed⟩, kept⟩)
    · exact ⟨history, entry, [], rfl, opened, by simp⟩
    · refine ⟨before, first, after ++ [entry], by simp, opened, ?_⟩
      intro later member
      rcases List.mem_append.mp member with earlier | last
      · exact unclosed later earlier
      · rw [List.mem_singleton.mp last]
        exact kept

/-- Entries that open and close nothing do not matter to a bracket. -/
theorem isOpen_append_of_plain
    (plain : ∀ entry ∈ entries, brackets.opens entry = none ∧ brackets.closes entry = false) :
    brackets.IsOpen producer (history ++ entries) ↔ brackets.IsOpen producer history := by
  induction entries generalizing history with
  | nil => simp
  | cons entry later induction =>
      have first := plain entry List.mem_cons_self
      have rest : brackets.IsOpen producer (history ++ [entry] ++ later) ↔
          brackets.IsOpen producer (history ++ [entry]) :=
        induction fun other member => plain other (List.mem_cons_of_mem _ member)
      rw [List.append_assoc, List.singleton_append] at rest
      rw [rest, isOpen_concat]
      simp [first.1, first.2]

theorem keptApart_of_justified (justified : History.Justified brackets.Allows history) :
    brackets.KeptApart history := by
  intro before first between later producer split opened unclosed
  have openBefore : ∀ inner entry rest, between = inner ++ entry :: rest →
      brackets.IsOpen producer (before ++ first :: inner) ∧
        brackets.Allows (before ++ first :: inner) entry := by
    rintro inner entry rest rfl
    constructor
    · refine ⟨before, first, inner, rfl, opened, ?_⟩
      exact fun other member => unclosed other (List.mem_append_left _ member)
    · exact justified _ entry (rest ++ later) (by rw [split]; simp)
  constructor
  · intro entry member
    rcases List.append_of_mem member with ⟨inner, rest, inside⟩
    have ⟨isOpen, allowed⟩ := openBefore inner entry rest inside
    by_contra outside
    exact allowed.outside (by simpa using outside) producer isOpen
  · intro inner second rest inside opensSecond
    have ⟨isOpen, allowed⟩ := openBefore inner second rest inside
    have cutOff := allowed.reopened opensSecond producer isOpen
    constructor
    · -- The producer was live when it opened its bracket.
      have liveBefore : ¬ brackets.IsCutOff producer before := by
        have allowedFirst := justified before first (between ++ later) (by rw [split]; simp)
        exact allowedFirst.live producer (brackets.author_of_opens opened)
      have notFirst := brackets.cutOff_of_author (brackets.author_of_opens opened)
      rcases isCutOff_append.mp cutOff with earlier | ⟨entry, member, isCutOff⟩
      · exact absurd earlier liveBefore
      · rcases List.mem_cons.mp member with rfl | within
        · rw [notFirst] at isCutOff
          cases isCutOff
        · exact ⟨entry, within, isCutOff⟩
    · intro entry member written
      subst inside
      rcases List.append_of_mem member with ⟨earlier, after, position⟩
      have allowedEntry := justified (before ++ first :: inner ++ earlier) entry after (by
        rw [split]
        simp only [List.append_assoc, List.cons_append, ← position])
      exact allowedEntry.live producer written (isCutOff_append.mpr (Or.inl cutOff))

/-! ## One live producer -/

inductive Stage where
  | unopened
  | opened
  | closed
  deriving DecidableEq

/-- At most one producer is live, and an open bracket is its own unless the producer of
that bracket was cut off. As long as such a bracket is open, `quiet` holds. -/
structure Disciplined (brackets : Brackets Entry Producer) (live : List (Producer × Stage))
    (quiet : Prop) (history : List Entry) : Prop where
  single : live.length ≤ 1
  alive : ∀ member ∈ live, ¬ brackets.IsCutOff member.1 history
  settled : ∀ member ∈ live, member.2 = .closed →
    ∀ producer, ¬ brackets.IsOpen producer history
  covered : ∀ producer, brackets.IsOpen producer history →
    (producer, .opened) ∈ live ∨ brackets.IsCutOff producer history ∧ quiet
  justified : History.Justified brackets.Allows history

structure Foreign (brackets : Brackets Entry Producer) (entry : Entry) : Prop where
  opens : brackets.opens entry = none
  closes : brackets.closes entry = false
  author : brackets.author entry = none
  cutOff : brackets.cutOff entry = none

structure Within (brackets : Brackets Entry Producer) (producer : Producer) (entry : Entry) :
    Prop where
  opens : brackets.opens entry = none
  closes : brackets.closes entry = false
  isOutside : brackets.isOutside entry = false
  author : brackets.author entry = some producer

namespace Disciplined

variable {live : List (Producer × Stage)} {quiet later : Prop} {stage : Stage} {entry : Entry}

theorem initial (quiet : Prop) : Disciplined brackets [] quiet [] := by
  refine ⟨by simp, by simp, by simp, ?_, History.justified_nil _⟩
  exact fun producer isOpen => absurd isOpen (not_isOpen_nil producer)

theorem isCutOff_of_none (unchanged : ∀ entry ∈ entries, brackets.cutOff entry = none) :
    brackets.IsCutOff producer (history ++ entries) ↔ brackets.IsCutOff producer history := by
  rw [isCutOff_append, or_iff_left]
  rintro ⟨entry, member, isCutOff⟩
  rw [unchanged entry member] at isCutOff
  cases isCutOff

theorem relax (disciplined : Disciplined brackets live quiet history) (weaker : quiet → later) :
    Disciplined brackets live later history := by
  refine ⟨disciplined.single, disciplined.alive, disciplined.settled, ?_, disciplined.justified⟩
  intro producer isOpen
  exact (disciplined.covered producer isOpen).imp_right fun ⟨cutOff, held⟩ =>
    ⟨cutOff, weaker held⟩

theorem extend (disciplined : Disciplined brackets live quiet history)
    (unbracketed : ∀ entry ∈ entries,
      brackets.opens entry = none ∧ brackets.closes entry = false)
    (uncut : ∀ entry ∈ entries, brackets.cutOff entry = none)
    (justified : History.Justified brackets.Allows (history ++ entries)) :
    Disciplined brackets live quiet (history ++ entries) := by
  refine ⟨disciplined.single, ?_, ?_, ?_, justified⟩
  · intro member isLive
    rw [isCutOff_of_none uncut]
    exact disciplined.alive member isLive
  · intro member isLive closed producer
    rw [isOpen_append_of_plain unbracketed]
    exact disciplined.settled member isLive closed producer
  · intro producer
    rw [isOpen_append_of_plain unbracketed, isCutOff_of_none uncut]
    exact disciplined.covered producer

/-- Nobody writes outside of the brackets while one may be open. -/
theorem foreign (disciplined : Disciplined brackets live quiet history)
    (areForeign : ∀ entry ∈ entries, Foreign brackets entry)
    (outside : ∀ entry ∈ entries, brackets.isOutside entry = true → live = [] ∧ ¬ quiet) :
    Disciplined brackets live quiet (history ++ entries) := by
  have unbracketed : ∀ entry ∈ entries,
      brackets.opens entry = none ∧ brackets.closes entry = false := fun entry member =>
    ⟨(areForeign entry member).opens, (areForeign entry member).closes⟩
  apply disciplined.extend unbracketed fun entry member => (areForeign entry member).cutOff
  refine History.justified_append.mpr ⟨disciplined.justified, ?_⟩
  rintro before entry after rfl
  have isForeign := areForeign entry (by simp)
  constructor
  · intro isOutside producer isOpen
    have ⟨nobody, loud⟩ := outside entry (by simp) isOutside
    rw [isOpen_append_of_plain fun other member => unbracketed other (by simp [member])] at isOpen
    rcases disciplined.covered producer isOpen with isLive | ⟨_, held⟩
    · simp [nobody] at isLive
    · exact loud held
  · intro opens
    simp [isForeign.opens] at opens
  · intro producer written
    simp [isForeign.author] at written

theorem write (disciplined : Disciplined brackets live quiet history)
    (isLive : (producer, stage) ∈ live)
    (within : ∀ entry ∈ entries, Within brackets producer entry) :
    Disciplined brackets live quiet (history ++ entries) := by
  apply disciplined.extend
  · exact fun entry member => ⟨(within entry member).opens, (within entry member).closes⟩
  · exact fun entry member => brackets.cutOff_of_author (within entry member).author
  · refine History.justified_append.mpr ⟨disciplined.justified, ?_⟩
    rintro before entry after rfl
    have inside := within entry (by simp)
    constructor
    · intro isOutside
      simp [inside.isOutside] at isOutside
    · intro opens
      simp [inside.opens] at opens
    · intro author written
      rw [inside.author, Option.some.injEq] at written
      subst written
      rw [isCutOff_of_none fun other member =>
        brackets.cutOff_of_author (within other (by simp [member])).author]
      exact disciplined.alive _ isLive

theorem start (disciplined : Disciplined brackets [] quiet history)
    (isNew : ¬ brackets.IsCutOff producer history) :
    Disciplined brackets [(producer, .unopened)] quiet history := by
  refine ⟨by simp, by simpa using isNew, by simp, ?_, disciplined.justified⟩
  intro other isOpen
  exact Or.inr ((disciplined.covered other isOpen).resolve_left (by simp))

theorem opening (disciplined : Disciplined brackets [(producer, .unopened)] quiet history)
    (opens : brackets.opens entry = some producer)
    (inside : brackets.isOutside entry = false) :
    Disciplined brackets [(producer, .opened)] quiet (history ++ [entry]) := by
  have author := brackets.author_of_opens opens
  have uncut := brackets.cutOff_of_author author
  have alive := disciplined.alive _ List.mem_cons_self
  have earlier : ∀ other, brackets.IsOpen other history →
      brackets.IsCutOff other history ∧ quiet := fun other isOpen =>
    (disciplined.covered other isOpen).resolve_left (by simp)
  have sameCuts : ∀ other, brackets.IsCutOff other (history ++ [entry]) ↔
      brackets.IsCutOff other history := fun other => isCutOff_of_none (by simpa using uncut)
  refine ⟨by simp, ?_, by simp, ?_, History.justified_append.mpr ⟨disciplined.justified, ?_⟩⟩
  · intro member isLive
    rw [List.mem_singleton.mp isLive, sameCuts]
    exact alive
  · intro other isOpen
    rw [sameCuts]
    rcases isOpen_concat.mp isOpen with own | ⟨before, _⟩
    · have same : producer = other := by simpa [opens] using own
      simp [same]
    · exact Or.inr (earlier other before)
  · rw [History.justified_singleton, List.append_nil]
    refine ⟨by simp [inside], fun _ other isOpen => (earlier other isOpen).1, ?_⟩
    intro other written
    have same : producer = other := by simpa [author] using written
    exact same ▸ alive

theorem closing (disciplined : Disciplined brackets [(producer, .opened)] quiet history)
    (closes : brackets.closes entry = true) (opens : brackets.opens entry = none)
    (inside : brackets.isOutside entry = false)
    (author : brackets.author entry = some producer) :
    Disciplined brackets [(producer, .closed)] quiet (history ++ [entry]) := by
  have uncut := brackets.cutOff_of_author author
  have alive := disciplined.alive _ List.mem_cons_self
  have nothing : ∀ other, ¬ brackets.IsOpen other (history ++ [entry]) := by
    intro other isOpen
    rcases isOpen_concat.mp isOpen with own | ⟨_, kept⟩
    · simp [opens] at own
    · simp [closes] at kept
  refine ⟨by simp, ?_, fun _ _ _ => nothing, fun other isOpen => absurd isOpen (nothing other),
    History.justified_append.mpr ⟨disciplined.justified, ?_⟩⟩
  · intro member isLive
    rw [List.mem_singleton.mp isLive, isCutOff_of_none (by simpa using uncut)]
    exact alive
  · rw [History.justified_singleton, List.append_nil]
    refine ⟨by simp [inside], by simp [opens], ?_⟩
    intro other written
    have same : producer = other := by simpa [author] using written
    exact same ▸ alive

/-- A producer that is cut off leaves a bracket that stays open under `quiet`. -/
theorem abort (disciplined : Disciplined brackets [(producer, stage)] quiet history)
    (cutOff : brackets.cutOff entry = some producer) (opens : brackets.opens entry = none)
    (closes : brackets.closes entry = false) (inside : brackets.isOutside entry = false)
    (author : brackets.author entry = none) (held : quiet) :
    Disciplined brackets [] quiet (history ++ [entry]) := by
  refine ⟨by simp, by simp, by simp, ?_,
    History.justified_append.mpr ⟨disciplined.justified, ?_⟩⟩
  · intro other isOpen
    rw [isOpen_append_of_plain (by simp [opens, closes])] at isOpen
    refine Or.inr ⟨isCutOff_append.mpr ?_, held⟩
    rcases disciplined.covered other isOpen with own | ⟨earlier, _⟩
    · have same : other = producer := (Prod.mk.inj (List.mem_singleton.mp own)).1
      exact Or.inr ⟨entry, by simp, same ▸ cutOff⟩
    · exact Or.inl earlier
  · rw [History.justified_singleton, List.append_nil]
    exact ⟨by simp [inside], by simp [opens], by simp [author]⟩

theorem retire (disciplined : Disciplined brackets [(producer, stage)] quiet history)
    (notWithin : stage ≠ .opened) (continues : stage ≠ .closed → quiet → later) :
    Disciplined brackets [] later history := by
  refine ⟨by simp, by simp, by simp, ?_, disciplined.justified⟩
  intro other isOpen
  have unclosed : stage ≠ .closed := fun closed =>
    disciplined.settled _ List.mem_cons_self closed other isOpen
  rcases disciplined.covered other isOpen with own | ⟨cutOff, held⟩
  · exact absurd (Prod.mk.inj (List.mem_singleton.mp own)).2.symm notWithin
  · exact Or.inr ⟨cutOff, continues unclosed held⟩

end Disciplined

end Brackets

end SignalPurple
