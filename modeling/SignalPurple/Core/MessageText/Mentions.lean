import SignalPurple.Core.MessageText
import SignalPurple.Foundation.Slots
import Mathlib.Data.List.Sort

/-! # Placement of mentions

A mention says where it belongs in the body; `format_body_with_mentions` does not look at
that and gives the placeholders out in the order of the ranges. Here both readings are
compared: what the ranges ask for and what the function returns.
-/

namespace SignalPurple

/-! ## Ranges with their starts -/

/-- A range of a body, with its start in UTF-16 code units. -/
structure PlacedRange where
  start : UInt32
  value : BodyRange
  deriving DecidableEq

structure Mention where
  start : Nat
  aci : String
  deriving DecidableEq

def mentionsOf (ranges : List PlacedRange) : List Mention :=
  ranges.filterMap fun range =>
    match range.value with
    | .mentionAci aci => some { start := range.start.toNat, aci }
    | .other => none

/-- Code units of a character in UTF-16. -/
def utf16Length (character : Char) : Nat := if character.toNat < 0x10000 then 1 else 2

/-- Where the text holds the placeholder, in UTF-16 code units. -/
def placeholderOffsets : Nat → List Char → List Nat
  | _, [] => []
  | offset, character :: rest =>
      let later := placeholderOffsets (offset + utf16Length character) rest
      if character = mentionPlaceholder then offset :: later else later

/-- Each mention starts at a placeholder of its own. -/
structure MentionsPlaced (body : String) (ranges : List PlacedRange) : Prop where
  distinct : ((mentionsOf ranges).map (·.start)).Nodup
  held : ∀ mention ∈ mentionsOf ranges, mention.start ∈ placeholderOffsets 0 body.toList

def mentionAt (mentions : List Mention) (offset : Nat) : Option Mention :=
  mentions.find? (·.start = offset)

/-- What belongs at a placeholder: the mention that starts there, if there is one. -/
def placedFilling (mentions : List Mention) (offset : Nat) : List Char :=
  match mentionAt mentions offset with
  | some mention => '@' :: mention.aci.toList
  | none => [mentionPlaceholder]

def placeMentions (mentions : List Mention) : Nat → List Char → List Char
  | _, [] => []
  | offset, character :: rest =>
      let later := placeMentions mentions (offset + utf16Length character) rest
      if character = mentionPlaceholder then placedFilling mentions offset ++ later
      else character :: later

/-- The body with the placeholder at the start of each mention replaced by that mention. -/
def bodyWithPlacedMentions (body : String) (ranges : List PlacedRange) : String :=
  String.ofList (placeMentions (mentionsOf ranges) 0 body.toList)

/-- Every placeholder belongs to a mention, and the ranges list the accounts in the order of
the starts; or there is no mention at all. -/
def MentionsInOrder (body : String) (ranges : List PlacedRange) : Prop :=
  mentionsOf ranges = [] ∨
    (∀ offset ∈ placeholderOffsets 0 body.toList,
      ∃ mention ∈ mentionsOf ranges, mention.start = offset) ∧
    ∃ sorted : List Mention, sorted.Perm (mentionsOf ranges) ∧
      sorted.Pairwise (·.start < ·.start) ∧
      sorted.map (·.aci) = (mentionsOf ranges).map (·.aci)

/-- All accounts are named by texts of one length, as canonical identifiers are. -/
def AcisOfOneLength (ranges : List PlacedRange) : Prop :=
  ∃ length, ∀ mention ∈ mentionsOf ranges, mention.aci.toList.length = length

/-! ## Both readings fill slots -/

theorem mentionedAcis_eq (ranges : List PlacedRange) :
    mentionedAcis (ranges.map (·.value)) = (mentionsOf ranges).map (·.aci) := by
  simp only [mentionedAcis, mentionsOf, List.filterMap_map, List.map_filterMap]
  congr 1
  funext range
  cases h : range.value <;> simp [h]

theorem length_placeholderOffsets (offset : Nat) (word : List Char) :
    (placeholderOffsets offset word).length = word.count mentionPlaceholder := by
  induction word generalizing offset with
  | nil => rfl
  | cons character rest induction =>
      simp only [placeholderOffsets]
      by_cases here : character = mentionPlaceholder
      · rw [if_pos here, here, List.count_cons_self, List.length_cons, induction]
      · rw [if_neg here, List.count_cons_of_ne here, induction]

theorem placeMentions_eq_fill (mentions : List Mention) (offset : Nat) (word : List Char) :
    placeMentions mentions offset word =
      fill mentionPlaceholder ((placeholderOffsets offset word).map (placedFilling mentions))
        word := by
  induction word generalizing offset with
  | nil => rfl
  | cons character rest induction =>
      simp only [placeMentions, placeholderOffsets]
      by_cases here : character = mentionPlaceholder
      · rw [if_pos here, if_pos here, here, List.map_cons, fill_slot, induction]
      · rw [if_neg here, if_neg here, fill_other here, induction]

def listedFillings : List String → Nat → List (List Char)
  | _, 0 => []
  | [], count + 1 => ['@'] :: listedFillings [] count
  | aci :: later, count + 1 => ('@' :: aci.toList) :: listedFillings later count

theorem replaceMentions_eq_fill (acis : List String) (word : List Char) :
    replaceMentions acis word =
      fill mentionPlaceholder (listedFillings acis (word.count mentionPlaceholder)) word := by
  induction word generalizing acis with
  | nil => cases acis <;> rfl
  | cons character rest induction =>
      by_cases here : character = mentionPlaceholder
      · subst here
        rw [List.count_cons_self]
        cases acis with
        | nil => simp [replaceMentions, listedFillings, fill_slot, induction]
        | cons aci later => simp [replaceMentions, listedFillings, fill_slot, induction]
      · rw [List.count_cons_of_ne here, fill_other here, ← induction]
        cases acis <;> simp [replaceMentions, here]

def markedAcis (acis : List String) : List (List Char) := acis.map fun aci => '@' :: aci.toList

theorem markedAcis_injective : Function.Injective markedAcis :=
  List.map_injective_iff.mpr fun _ _ same => String.toList_injective (List.cons.inj same).2

theorem listedFillings_of_length (acis : List String) :
    listedFillings acis acis.length = markedAcis acis := by
  induction acis with
  | nil => rfl
  | cons aci later induction =>
      rw [List.length_cons, listedFillings, induction]
      rfl

theorem length_listedFillings (acis : List String) (count : Nat) :
    (listedFillings acis count).length = count := by
  induction count generalizing acis with
  | zero => rfl
  | succ count induction => cases acis <;> simp [listedFillings, induction]

/-! ## Mentions in the order of the body -/

theorem lt_of_mem_placeholderOffsets {start offset : Nat} {word : List Char}
    (member : offset ∈ placeholderOffsets start word) : start ≤ offset := by
  induction word generalizing start with
  | nil => cases member
  | cons character rest induction =>
      simp only [placeholderOffsets] at member
      split at member
      · rcases List.mem_cons.mp member with rfl | later
        · exact Nat.le_refl _
        · exact Nat.le_trans (Nat.le_add_right _ _) (induction later)
      · exact Nat.le_trans (Nat.le_add_right _ _) (induction member)

theorem utf16Length_pos (character : Char) : 0 < utf16Length character := by
  unfold utf16Length
  split <;> decide

theorem pairwise_placeholderOffsets (start : Nat) (word : List Char) :
    (placeholderOffsets start word).Pairwise (· < ·) := by
  induction word generalizing start with
  | nil => exact .nil
  | cons character rest induction =>
      simp only [placeholderOffsets]
      split
      · refine .cons ?_ (induction _)
        intro offset later
        have := lt_of_mem_placeholderOffsets later
        have := utf16Length_pos character
        omega
      · exact induction _

theorem mentionAt_eq_some {mentions : List Mention} {offset : Nat} {mention : Mention}
    (found : mentionAt mentions offset = some mention) :
    mention ∈ mentions ∧ mention.start = offset :=
  ⟨List.mem_of_find?_eq_some found, by simpa using List.find?_some found⟩

theorem mentionAt_of_mem {mentions : List Mention} {mention : Mention}
    (distinct : (mentions.map (·.start)).Nodup) (member : mention ∈ mentions) :
    mentionAt mentions mention.start = some mention := by
  cases found : mentionAt mentions mention.start with
  | none => simpa using List.find?_eq_none.mp found mention member
  | some other =>
      obtain ⟨otherMember, same⟩ := mentionAt_eq_some found
      rw [List.inj_on_of_nodup_map distinct otherMember member same]

/-- The mentions as a reader of the body meets them. -/
def mentionsAlong (mentions : List Mention) (offsets : List Nat) : List Mention :=
  offsets.filterMap (mentionAt mentions)

section Along

variable {mentions : List Mention} {offsets : List Nat}

theorem pairwise_mentionsAlong (ordered : offsets.Pairwise (· < ·)) :
    (mentionsAlong mentions offsets).Pairwise (·.start < ·.start) := by
  refine List.Pairwise.filterMap _ ?_ ordered
  intro first second before one foundOne two foundTwo
  rw [(mentionAt_eq_some foundOne).2, (mentionAt_eq_some foundTwo).2]
  exact before

theorem perm_mentionsAlong (ordered : offsets.Pairwise (· < ·))
    (distinct : (mentions.map (·.start)).Nodup)
    (held : ∀ mention ∈ mentions, mention.start ∈ offsets) :
    (mentionsAlong mentions offsets).Perm mentions := by
  have nodup : (mentionsAlong mentions offsets).Nodup :=
    (pairwise_mentionsAlong ordered).imp fun before same => by
      subst same
      exact Nat.lt_irrefl _ before
  refine (List.perm_ext_iff_of_nodup nodup (List.Nodup.of_map _ distinct)).mpr fun mention => ?_
  constructor
  · intro member
    obtain ⟨offset, _, found⟩ := List.mem_filterMap.mp member
    exact (mentionAt_eq_some found).1
  · intro member
    exact List.mem_filterMap.mpr
      ⟨mention.start, held mention member, mentionAt_of_mem distinct member⟩

theorem count_placedFillings (mentions : List Mention) (offsets : List Nat) :
    ((offsets.map (placedFilling mentions)).map (List.count mentionPlaceholder)).sum +
        (mentionsAlong mentions offsets).length =
      ((mentionsAlong mentions offsets).map fun mention =>
        mention.aci.toList.count mentionPlaceholder).sum + offsets.length := by
  induction offsets with
  | nil => rfl
  | cons offset later induction =>
      cases found : mentionAt mentions offset with
      | none =>
          have here : placedFilling mentions offset = [mentionPlaceholder] := by
            simp [placedFilling, found]
          simp only [mentionsAlong, List.filterMap_cons_none found, List.map_cons, here,
            List.sum_cons, List.count_singleton_self, List.length_cons] at induction ⊢
          omega
      | some mention =>
          have here : placedFilling mentions offset = '@' :: mention.aci.toList := by
            simp [placedFilling, found]
          have mark : ('@' :: mention.aci.toList).count mentionPlaceholder =
              mention.aci.toList.count mentionPlaceholder :=
            List.count_cons_of_ne (by decide)
          simp only [mentionsAlong, List.filterMap_cons_some found, List.map_cons, here, mark,
            List.sum_cons, List.length_cons] at induction ⊢
          omega

theorem length_mentionsAlong_le (mentions : List Mention) (offsets : List Nat) :
    (mentionsAlong mentions offsets).length ≤ offsets.length :=
  List.length_filterMap_le _ _

theorem starts_mentionsAlong (all : (mentionsAlong mentions offsets).length = offsets.length) :
    (mentionsAlong mentions offsets).map (·.start) = offsets := by
  induction offsets with
  | nil => rfl
  | cons offset later induction =>
      unfold mentionsAlong at all ⊢
      cases found : mentionAt mentions offset with
      | none =>
          have := length_mentionsAlong_le mentions later
          rw [List.filterMap_cons_none found, List.length_cons] at all
          unfold mentionsAlong at this
          omega
      | some mention =>
          rw [List.filterMap_cons_some found, List.length_cons, List.length_cons,
            Nat.add_right_cancel_iff] at all
          rw [List.filterMap_cons_some found, List.map_cons, (mentionAt_eq_some found).2]
          exact congrArg _ (induction all)

theorem placedFillings_of_starts {sorted : List Mention}
    (distinct : (mentions.map (·.start)).Nodup) (known : ∀ mention ∈ sorted, mention ∈ mentions)
    (starts : sorted.map (·.start) = offsets) :
    offsets.map (placedFilling mentions) = markedAcis (sorted.map (·.aci)) := by
  subst starts
  rw [markedAcis, List.map_map, List.map_map]
  apply List.map_congr_left
  intro mention member
  simp [placedFilling, mentionAt_of_mem distinct (known mention member)]

end Along

theorem count_listedFillings {acis : List String} {count : Nat} (enough : acis.length ≤ count) :
    ((listedFillings acis count).map (List.count mentionPlaceholder)).sum =
      (acis.map fun aci => aci.toList.count mentionPlaceholder).sum := by
  induction count generalizing acis with
  | zero =>
      obtain rfl := List.length_eq_zero_iff.mp (Nat.le_zero.mp enough)
      rfl
  | succ count induction =>
      cases acis with
      | nil =>
          have rest := @induction [] (Nat.zero_le _)
          simpa [listedFillings, mentionPlaceholder] using rest
      | cons aci later =>
          have mark : ('@' :: aci.toList).count mentionPlaceholder =
              aci.toList.count mentionPlaceholder := List.count_cons_of_ne (by decide)
          rw [listedFillings, List.map_cons, List.sum_cons, mark,
            induction (Nat.le_of_succ_le_succ enough), List.map_cons, List.sum_cons]

/-! ## Where both readings agree -/

section Agreement

variable {body : String} {ranges : List PlacedRange}

theorem formatBodyWithMentions_eq (placed : MentionsPlaced body ranges)
    (mentioned : mentionsOf ranges ≠ []) :
    formatBodyWithMentions body (ranges.map (·.value)) =
      String.ofList (fill mentionPlaceholder
        (listedFillings ((mentionsOf ranges).map (·.aci))
          (placeholderOffsets 0 body.toList).length) body.toList) := by
  obtain ⟨mention, member⟩ := List.exists_mem_of_ne_nil _ mentioned
  have present : mentionPlaceholder ∈ body.toList := by
    rw [← List.count_pos_iff, ← length_placeholderOffsets 0]
    exact List.length_pos_of_mem (placed.held mention member)
  have listed : ¬((mentionsOf ranges).map (·.aci) = [] ∨ mentionPlaceholder ∉ body.toList) := by
    simp [mentioned, present]
  rw [formatBodyWithMentions, mentionedAcis_eq, if_neg listed, replaceMentions_eq_fill,
    length_placeholderOffsets]

theorem bodyWithPlacedMentions_eq (body : String) (ranges : List PlacedRange) :
    bodyWithPlacedMentions body ranges =
      String.ofList (fill mentionPlaceholder
        ((placeholderOffsets 0 body.toList).map (placedFilling (mentionsOf ranges)))
        body.toList) := by
  rw [bodyWithPlacedMentions, placeMentions_eq_fill]

theorem formatBodyWithMentions_of_inOrder (placed : MentionsPlaced body ranges)
    (inOrder : MentionsInOrder body ranges) :
    formatBodyWithMentions body (ranges.map (·.value)) = bodyWithPlacedMentions body ranges := by
  by_cases mentioned : mentionsOf ranges = []
  · have unchanged : placedFilling (mentionsOf ranges) = fun _ => [mentionPlaceholder] := by
      funext offset
      simp [placedFilling, mentionAt, mentioned]
    rw [bodyWithPlacedMentions_eq, unchanged, List.map_const', fill_replicate,
      formatBodyWithMentions, mentionedAcis_eq]
    simp [mentioned]
  · obtain ⟨covered, sorted, perm, ordered, listed⟩ := inOrder.resolve_left mentioned
    have starts : sorted.map (·.start) = placeholderOffsets 0 body.toList := by
      apply (List.pairwise_map.mpr ordered).eq_of_mem_iff (pairwise_placeholderOffsets 0 _)
      intro offset
      constructor
      · intro member
        obtain ⟨mention, listedHere, rfl⟩ := List.mem_map.mp member
        exact placed.held mention (perm.mem_iff.mp listedHere)
      · intro member
        obtain ⟨mention, known, rfl⟩ := covered offset member
        exact List.mem_map_of_mem (perm.mem_iff.mpr known)
    have fillings := placedFillings_of_starts placed.distinct
      (fun mention member => perm.mem_iff.mp member) starts
    have count : (placeholderOffsets 0 body.toList).length =
        ((mentionsOf ranges).map (·.aci)).length := by
      rw [← starts, List.length_map, List.length_map, perm.length_eq]
    rw [formatBodyWithMentions_eq placed mentioned, bodyWithPlacedMentions_eq, fillings, count,
      listedFillings_of_length, listed]

/-- No placeholder is left over: the texts of the accounts are in both results, with whatever
they hold themselves, and a placeholder of the body is in one of them only. -/
theorem length_mentionsAlong_of_fill (placed : MentionsPlaced body ranges)
    (filled : fill mentionPlaceholder (listedFillings ((mentionsOf ranges).map (·.aci))
        (placeholderOffsets 0 body.toList).length) body.toList =
      fill mentionPlaceholder
        ((placeholderOffsets 0 body.toList).map (placedFilling (mentionsOf ranges)))
        body.toList) :
    (mentionsAlong (mentionsOf ranges) (placeholderOffsets 0 body.toList)).length =
      (placeholderOffsets 0 body.toList).length := by
  have length := length_placeholderOffsets 0 body.toList
  have perm := perm_mentionsAlong (pairwise_placeholderOffsets 0 body.toList) placed.distinct
    placed.held
  have enough : ((mentionsOf ranges).map (·.aci)).length ≤
      (placeholderOffsets 0 body.toList).length := by
    rw [List.length_map, ← perm.length_eq]
    exact length_mentionsAlong_le _ _
  have counts := congrArg (List.count mentionPlaceholder) filled
  rw [count_fill (by rw [length_listedFillings, length]),
    count_fill (by rw [List.length_map, length]), count_listedFillings enough,
    List.map_map] at counts
  have total := count_placedFillings (mentionsOf ranges) (placeholderOffsets 0 body.toList)
  have sums := (perm.map fun mention => mention.aci.toList.count mentionPlaceholder).sum_nat
  rw [sums] at total
  simp only [Function.comp_def] at counts
  omega

theorem inOrder_of_formatBodyWithMentions (placed : MentionsPlaced body ranges)
    (lengths : AcisOfOneLength ranges)
    (same : formatBodyWithMentions body (ranges.map (·.value)) =
      bodyWithPlacedMentions body ranges) : MentionsInOrder body ranges := by
  by_cases mentioned : mentionsOf ranges = []
  · exact .inl mentioned
  · right
    have ordered := pairwise_placeholderOffsets 0 body.toList
    have perm := perm_mentionsAlong ordered placed.distinct placed.held
    rw [formatBodyWithMentions_eq placed mentioned, bodyWithPlacedMentions_eq] at same
    have filled := String.ofList_injective same
    have all := length_mentionsAlong_of_fill placed filled
    have starts := starts_mentionsAlong all
    have known : ∀ mention ∈ mentionsAlong (mentionsOf ranges)
        (placeholderOffsets 0 body.toList), mention ∈ mentionsOf ranges :=
      fun mention member => perm.mem_iff.mp member
    refine ⟨?_, _, perm, pairwise_mentionsAlong ordered, ?_⟩
    · intro offset member
      rw [← starts] at member
      obtain ⟨mention, along, start⟩ := List.mem_map.mp member
      exact ⟨mention, known mention along, start⟩
    · have count : (placeholderOffsets 0 body.toList).length =
          ((mentionsOf ranges).map (·.aci)).length := by
        rw [← all, perm.length_eq, List.length_map]
      rw [placedFillings_of_starts placed.distinct known starts, count,
        listedFillings_of_length] at filled
      obtain ⟨length, ofLength⟩ := lengths
      have width {sorted : List Mention}
          (listed : ∀ mention ∈ sorted, mention ∈ mentionsOf ranges) :
          ∀ filling ∈ markedAcis (sorted.map (·.aci)), filling.length = length + 1 := by
        simp only [markedAcis, List.map_map, List.forall_mem_map]
        intro mention member
        exact congrArg (· + 1) (ofLength mention (listed mention member))
      have offsets := length_placeholderOffsets 0 body.toList
      have fillings := fillings_eq_of_fill_eq (by simp [markedAcis, ← offsets, count])
        (by simp [markedAcis, ← offsets, all]) (width fun _ member => member) (width known) filled
      exact (markedAcis_injective fillings).symm

end Agreement

/-- Each mention replaces the placeholder at its start if the ranges are in order and no
placeholder is left over. For accounts with texts of one length it is so only then; texts of
several lengths can spell the same body in two orders. -/
theorem formatBodyWithMentions_placed_iff (body : String) (ranges : List PlacedRange)
    (placed : MentionsPlaced body ranges) :
    (MentionsInOrder body ranges →
      formatBodyWithMentions body (ranges.map (·.value)) = bodyWithPlacedMentions body ranges) ∧
    (AcisOfOneLength ranges →
      (formatBodyWithMentions body (ranges.map (·.value)) = bodyWithPlacedMentions body ranges ↔
        MentionsInOrder body ranges)) :=
  ⟨formatBodyWithMentions_of_inOrder placed, fun lengths =>
    ⟨inOrder_of_formatBodyWithMentions placed lengths, formatBodyWithMentions_of_inOrder placed⟩⟩

def orderedRanges : List PlacedRange :=
  [{ start := 0, value := .mentionAci "ada" }, { start := 4, value := .other },
    { start := 6, value := .mentionAci "eve" }]

def mentioningBody : String := "￼ and ￼"

theorem formatBodyWithMentions_placed_iff_ordered :
    MentionsPlaced mentioningBody orderedRanges ∧ AcisOfOneLength orderedRanges ∧
      (formatBodyWithMentions mentioningBody (orderedRanges.map (·.value)) =
          bodyWithPlacedMentions mentioningBody orderedRanges ↔
        MentionsInOrder mentioningBody orderedRanges) := by
  have placed : MentionsPlaced mentioningBody orderedRanges :=
    ⟨by decide +kernel, by decide +kernel⟩
  have lengths : AcisOfOneLength orderedRanges := ⟨3, by decide +kernel⟩
  exact ⟨placed, lengths,
    (formatBodyWithMentions_placed_iff mentioningBody orderedRanges placed).2 lengths⟩

/-- With the ranges in the other order each account stands in the other's place, and without
the first one the second stands in a place that no range covers. -/
theorem mentions_displaced :
    MentionsPlaced mentioningBody orderedRanges.reverse ∧
    formatBodyWithMentions mentioningBody (orderedRanges.reverse.map (·.value)) = "@eve and @ada" ∧
    bodyWithPlacedMentions mentioningBody orderedRanges.reverse = "@ada and @eve" ∧
    MentionsPlaced mentioningBody orderedRanges.tail ∧
    formatBodyWithMentions mentioningBody (orderedRanges.tail.map (·.value)) = "@eve and @" ∧
    bodyWithPlacedMentions mentioningBody orderedRanges.tail = "￼ and @eve" :=
  ⟨⟨by decide +kernel, by decide +kernel⟩, by decide +kernel, by decide +kernel,
    ⟨by decide +kernel, by decide +kernel⟩, by decide +kernel, by decide +kernel⟩

end SignalPurple
