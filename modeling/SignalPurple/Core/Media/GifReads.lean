import SignalPurple.Core.Media

/-! # Reads of the GIF recognizer

`bounded_inline_gif` indexes bytes that somebody else chose. Here it is written with reads
that fail outside of the data and with loops as the source has them, without a bound on
their rounds. It never fails, and it gives what `boundedInlineGif` gives.
-/

namespace SignalPurple

/-! ## Offsets -/

theorem advanceGifOffset_eq_some {offset amount size next : Nat} :
    advanceGifOffset offset amount size = some next ↔
      next = offset + amount ∧ next ≤ size := by
  unfold advanceGifOffset
  split
  · simp only [reduceCtorEq, false_iff]
    omega
  · simp only [Option.some.injEq]
    omega

theorem getElem?_of_lt {data : List UInt8} {offset : Nat} (within : offset < data.length) :
    ∃ byte, data[offset]? = some byte :=
  ⟨data[offset], List.getElem?_eq_getElem within⟩

theorem exists_gifU16 {data : List UInt8} {offset : Nat} (within : offset + 1 < data.length) :
    ∃ value, gifU16 data offset = some value := by
  obtain ⟨low, first⟩ := getElem?_of_lt (Nat.lt_of_succ_lt within)
  obtain ⟨high, second⟩ := getElem?_of_lt within
  exact ⟨low.toNat + 256 * high.toNat, by simp only [gifU16, first, second]⟩

/-! ## The recognizer with reads that can fail -/

/-- `None` is a read outside of the data, as it is for all reads here. -/
def skipGifSubBlocksChecked (data : List UInt8) (offset : Nat) : Option (Option Nat) :=
  if offset < data.length then
    match data[offset]? with
    | none => none
    | some blockSize =>
        if blockSize = 0 then some (some (offset + 1))
        else
          match _moved : advanceGifOffset (offset + 1) blockSize.toNat data.length with
          | none => some none
          | some next => skipGifSubBlocksChecked data next
  else some none
termination_by data.length - offset
decreasing_by
  have := advanceGifOffset_eq_some.mp _moved
  omega

theorem skipGifSubBlocksChecked_of_some {data : List UInt8} {offset : Nat} {blockSize : UInt8}
    (here : data[offset]? = some blockSize) :
    skipGifSubBlocksChecked data offset =
      if blockSize = 0 then some (some (offset + 1))
      else
        match advanceGifOffset (offset + 1) blockSize.toNat data.length with
        | none => some none
        | some next => skipGifSubBlocksChecked data next := by
  have within := (List.getElem?_eq_some_iff.mp here).1
  rw [skipGifSubBlocksChecked]
  simp only [within, if_true, here]
  split
  · rfl
  · split <;> rename_i moved <;> simp only [moved]

theorem skipGifSubBlocksChecked_of_none {data : List UInt8} {offset : Nat}
    (outside : data.length ≤ offset) : skipGifSubBlocksChecked data offset = some none := by
  rw [skipGifSubBlocksChecked, if_neg (Nat.not_lt.mpr outside)]

theorem lt_of_skipGifSubBlocksChecked {data : List UInt8} {offset next : Nat}
    (skipped : skipGifSubBlocksChecked data offset = some (some next)) : offset < next := by
  fun_induction skipGifSubBlocksChecked data offset with
  | case1 => cases skipped
  | case2 =>
      obtain rfl : _ = next := Option.some.inj (Option.some.inj skipped)
      omega
  | case3 => cases skipped
  | case4 offset _ _ _ _ after moved induction =>
      have := advanceGifOffset_eq_some.mp moved
      have := induction skipped
      omega
  | case5 => cases skipped

/-- The table that the packed field announces, if it does. -/
def skipColorTable (packed : UInt8) (offset size : Nat) : Option Nat :=
  if packed &&& 0x80 ≠ 0 then advanceGifOffset offset (3 <<< ((packed &&& 0x07).toNat + 1)) size
  else some offset

/-- A division by zero fails as a read outside of the data does. -/
def divChecked (dividend divisor : Nat) : Option Nat :=
  if divisor = 0 then none else some (dividend / divisor)

def skipGifCodesChecked (data : List UInt8) (packed : UInt8) (offset : Nat) :
    Option (Option Nat) :=
  match skipColorTable packed offset data.length with
  | none => some none
  | some codes =>
      if data.length ≤ codes then some none
      else
        match data[codes]? with
        | none => none
        | some codeSize =>
            if 2 ≤ codeSize ∧ codeSize ≤ 8 then skipGifSubBlocksChecked data (codes + 1)
            else some none

def skipGifImageChecked (data : List UInt8) (canvas : GifCanvas) (offset frames : Nat) :
    Option (Option Nat) :=
  if data.length < offset ∨ data.length - offset < 9 then some none
  else
    match gifU16 data offset, gifU16 data (offset + 2), gifU16 data (offset + 4),
      gifU16 data (offset + 6) with
    | some left, some top, some width, some height =>
        match data[offset + 8]? with
        | none => none
        | some imagePacked =>
            if width = 0 ∨ height = 0 ∨ canvas.width < left + width ∨
                canvas.height < top + height then some none
            else
              match divChecked maxInlineGifPixelFrames canvas.pixels with
              | none => none
              | some budget =>
                  if budget < frames then some none
                  else skipGifCodesChecked data imagePacked (offset + 9)
    | _, _, _, _ => some none

theorem lt_of_skipGifCodesChecked {data : List UInt8} {packed : UInt8} {offset next : Nat}
    (skipped : skipGifCodesChecked data packed offset = some (some next)) : offset < next := by
  unfold skipGifCodesChecked at skipped
  split at skipped
  next => cases skipped
  next codes table =>
    have moved : offset ≤ codes := by
      unfold skipColorTable at table
      split at table
      · obtain ⟨rfl, _⟩ := advanceGifOffset_eq_some.mp table
        exact Nat.le_add_right offset _
      · exact Nat.le_of_eq (Option.some.inj table)
    split at skipped
    · cases skipped
    · split at skipped
      · cases skipped
      · split at skipped
        · have := lt_of_skipGifSubBlocksChecked skipped
          omega
        · cases skipped

theorem lt_of_skipGifImageChecked {data : List UInt8} {canvas : GifCanvas}
    {offset frames next : Nat}
    (skipped : skipGifImageChecked data canvas offset frames = some (some next)) :
    offset < next := by
  unfold skipGifImageChecked at skipped
  split at skipped
  · cases skipped
  · split at skipped
    · split at skipped
      · cases skipped
      · split at skipped
        · cases skipped
        · split at skipped
          · cases skipped
          · split at skipped
            · cases skipped
            · have := lt_of_skipGifCodesChecked skipped
              omega
    · cases skipped

def boundedGifBlocksChecked (data : List UInt8) (canvas : GifCanvas) (offset frames : Nat) :
    Option Bool :=
  if offset < data.length then
    match data[offset]? with
    | none => none
    | some marker =>
        if marker = 0x3b then some (decide (0 < frames))
        else if marker = 0x21 then
          match _moved : advanceGifOffset (offset + 1) 1 data.length with
          | none => some false
          | some label =>
              match _skipped : skipGifSubBlocksChecked data label with
              | none => none
              | some none => some false
              | some (some next) => boundedGifBlocksChecked data canvas next frames
        else if marker = 0x2c then
          match _skipped : skipGifImageChecked data canvas (offset + 1) (frames + 1) with
          | none => none
          | some none => some false
          | some (some next) => boundedGifBlocksChecked data canvas next (frames + 1)
        else some false
  else some false
termination_by data.length - offset
decreasing_by
  · have := advanceGifOffset_eq_some.mp _moved
    have := lt_of_skipGifSubBlocksChecked _skipped
    omega
  · have := lt_of_skipGifImageChecked _skipped
    omega

theorem boundedGifBlocksChecked_of_some {data : List UInt8} {canvas : GifCanvas}
    {offset frames : Nat} {marker : UInt8} (here : data[offset]? = some marker) :
    boundedGifBlocksChecked data canvas offset frames =
      if marker = 0x3b then some (decide (0 < frames))
      else if marker = 0x21 then
        match advanceGifOffset (offset + 1) 1 data.length with
        | none => some false
        | some label =>
            match skipGifSubBlocksChecked data label with
            | none => none
            | some none => some false
            | some (some next) => boundedGifBlocksChecked data canvas next frames
      else if marker = 0x2c then
        match skipGifImageChecked data canvas (offset + 1) (frames + 1) with
        | none => none
        | some none => some false
        | some (some next) => boundedGifBlocksChecked data canvas next (frames + 1)
      else some false := by
  have within := (List.getElem?_eq_some_iff.mp here).1
  rw [boundedGifBlocksChecked]
  simp only [within, if_true, here]
  split
  · rfl
  · split
    · split
      next stuck =>
        simp only [stuck]
      next label moved =>
        simp only [moved]
        split <;> rename_i skipped <;> simp only [skipped]
    · split
      · split <;> rename_i skipped <;> simp only [skipped]
      · rfl

theorem boundedGifBlocksChecked_of_none {data : List UInt8} {canvas : GifCanvas}
    {offset frames : Nat} (outside : data.length ≤ offset) :
    boundedGifBlocksChecked data canvas offset frames = some false := by
  rw [boundedGifBlocksChecked, if_neg (Nat.not_lt.mpr outside)]

def boundedInlineGifChecked (data : List UInt8) : Option Bool :=
  if data.length < 13 ∨ maxInlineMediaBytes < data.length ∨ isGif data = false then some false
  else
    match gifU16 data 6, gifU16 data 8 with
    | some width, some height =>
        let canvas : GifCanvas := { width, height }
        if !canvas.isBounded then some false
        else
          match data[10]? with
          | none => none
          | some packed =>
              match skipColorTable packed 13 data.length with
              | none => some false
              | some offset => boundedGifBlocksChecked data canvas offset 0
    | _, _ => some false

/-! ## No read fails -/

theorem skipGifSubBlocksChecked_eq {data : List UInt8} {offset fuel : Nat}
    (enough : data.length - offset < fuel) :
    skipGifSubBlocksChecked data offset = some (skipGifSubBlocks data fuel offset) := by
  induction fuel generalizing offset with
  | zero => exact absurd enough (Nat.not_lt_zero _)
  | succ rounds induction =>
      rw [skipGifSubBlocks]
      cases here : data[offset]? with
      | none => exact skipGifSubBlocksChecked_of_none (List.getElem?_eq_none_iff.mp here)
      | some blockSize =>
          have within := (List.getElem?_eq_some_iff.mp here).1
          rw [skipGifSubBlocksChecked_of_some here]
          simp only
          split
          · rfl
          · cases moved : advanceGifOffset (offset + 1) blockSize.toNat data.length with
            | none => rfl
            | some next =>
                have forward := advanceGifOffset_eq_some.mp moved
                have left : data.length - next < rounds := by omega
                exact induction left

theorem skipColorTable_eq {packed : UInt8} {offset size : Nat} (within : offset ≤ size) :
    skipColorTable packed offset size =
      advanceGifOffset offset (colorTableSize packed) size := by
  unfold skipColorTable colorTableSize
  by_cases unflagged : packed &&& 0x80 = 0
  · rw [if_neg (not_not.mpr unflagged), if_pos unflagged]
    exact (advanceGifOffset_eq_some.mpr ⟨(Nat.add_zero offset).symm, within⟩).symm
  · rw [if_pos unflagged, if_neg unflagged, Nat.shiftLeft_eq]

theorem skipGifCodesChecked_eq {data : List UInt8} {packed : UInt8} {offset : Nat}
    (within : offset ≤ data.length) :
    skipGifCodesChecked data packed offset = some (do
      let codes ← advanceGifOffset offset (colorTableSize packed) data.length
      let codeSize ← data[codes]?
      if 2 ≤ codeSize ∧ codeSize ≤ 8 then skipGifSubBlocks data data.length (codes + 1)
      else none) := by
  rw [skipGifCodesChecked, skipColorTable_eq within]
  cases moved : advanceGifOffset offset (colorTableSize packed) data.length with
  | none => rfl
  | some codes =>
      by_cases ended : data.length ≤ codes
      · simp [ended]
      · obtain ⟨codeSize, here⟩ := getElem?_of_lt (Nat.lt_of_not_le ended)
        have enough : data.length - (codes + 1) < data.length := by omega
        by_cases supported : 2 ≤ codeSize ∧ codeSize ≤ 8
        · simp [ended, here, supported, skipGifSubBlocksChecked_eq enough]
        · simp [ended, here, supported]

theorem skipGifImageChecked_eq {data : List UInt8} {canvas : GifCanvas} {offset frames : Nat}
    (drawn : canvas.pixels ≠ 0) :
    skipGifImageChecked data canvas offset frames =
      some (skipGifImage data canvas offset frames) := by
  unfold skipGifImageChecked skipGifImage
  by_cases short : data.length < offset ∨ data.length - offset < 9
  · rw [if_pos short, if_pos short]
  · rw [if_neg short, if_neg short]
    obtain ⟨left, leftAt⟩ := exists_gifU16 (show offset + 1 < data.length by omega)
    obtain ⟨top, topAt⟩ := exists_gifU16 (show offset + 2 + 1 < data.length by omega)
    obtain ⟨width, widthAt⟩ := exists_gifU16 (show offset + 4 + 1 < data.length by omega)
    obtain ⟨height, heightAt⟩ := exists_gifU16 (show offset + 6 + 1 < data.length by omega)
    obtain ⟨packed, packedAt⟩ := getElem?_of_lt (show offset + 8 < data.length by omega)
    simp only [gifFrameFits, divChecked, leftAt, topAt, widthAt, heightAt, packedAt, if_neg drawn]
    by_cases outside : width = 0 ∨ height = 0 ∨ canvas.width < left + width ∨
        canvas.height < top + height
    · have unfit : ¬(width ≠ 0 ∧ height ≠ 0 ∧ left + width ≤ canvas.width ∧
          top + height ≤ canvas.height ∧ frames ≤ maxInlineGifPixelFrames / canvas.pixels) := by
        omega
      simp [if_pos outside, unfit]
    · by_cases excess : maxInlineGifPixelFrames / canvas.pixels < frames
      · simp [excess]
      · have fit : width ≠ 0 ∧ height ≠ 0 ∧ left + width ≤ canvas.width ∧
            top + height ≤ canvas.height ∧ frames ≤ maxInlineGifPixelFrames / canvas.pixels := by
          omega
        rw [if_neg outside, if_neg excess, skipGifCodesChecked_eq (by omega)]
        simp [fit]

theorem boundedGifBlocksChecked_eq {data : List UInt8} {canvas : GifCanvas}
    {offset frames fuel : Nat} (drawn : canvas.pixels ≠ 0) (enough : data.length - offset < fuel) :
    boundedGifBlocksChecked data canvas offset frames =
      some (boundedGifBlocks data canvas fuel offset frames) := by
  -- Every round that goes on moves the offset, so that one round fewer is left for the rest.
  induction fuel generalizing offset frames with
  | zero => exact absurd enough (Nat.not_lt_zero _)
  | succ rounds induction =>
      rw [boundedGifBlocks]
      cases here : data[offset]? with
      | none => exact boundedGifBlocksChecked_of_none (List.getElem?_eq_none_iff.mp here)
      | some marker =>
          have within := (List.getElem?_eq_some_iff.mp here).1
          rw [boundedGifBlocksChecked_of_some here]
          simp only
          split
          · rfl
          · split
            · cases moved : advanceGifOffset (offset + 1) 1 data.length with
              | none => rfl
              | some label =>
                  have labelled := advanceGifOffset_eq_some.mp moved
                  have fuelled : data.length - label < data.length := by omega
                  have same := skipGifSubBlocksChecked_eq fuelled
                  simp only [Option.bind_some, same]
                  cases skipped : skipGifSubBlocks data data.length label with
                  | none => rfl
                  | some next =>
                      have forward := lt_of_skipGifSubBlocksChecked (same.trans (by rw [skipped]))
                      have left : data.length - next < rounds := by omega
                      exact induction left
            · split
              · have same := @skipGifImageChecked_eq data canvas (offset + 1) (frames + 1) drawn
                simp only [same]
                cases skipped : skipGifImage data canvas (offset + 1) (frames + 1) with
                | none => rfl
                | some next =>
                    have forward := lt_of_skipGifImageChecked (same.trans (by rw [skipped]))
                    have left : data.length - next < rounds := by omega
                    exact induction left
              · rfl

theorem pixels_ne_zero {canvas : GifCanvas} (bounded : canvas.isBounded = true) :
    canvas.pixels ≠ 0 := by
  have sides := of_decide_eq_true bounded
  exact Nat.mul_ne_zero sides.1 sides.2.1

/-- No read of the recognizer is outside of the data, and its loops end. -/
theorem boundedInlineGifChecked_eq (data : List UInt8) :
    boundedInlineGifChecked data = some (boundedInlineGif data) := by
  unfold boundedInlineGifChecked boundedInlineGif
  by_cases refused : data.length < 13 ∨ maxInlineMediaBytes < data.length ∨ isGif data = false
  · rw [if_pos refused, if_pos refused]
  · rw [if_neg refused, if_neg refused]
    obtain ⟨width, widthAt⟩ := exists_gifU16 (show 6 + 1 < data.length by omega)
    obtain ⟨height, heightAt⟩ := exists_gifU16 (show 8 + 1 < data.length by omega)
    obtain ⟨packed, packedAt⟩ := getElem?_of_lt (show 10 < data.length by omega)
    simp only [widthAt, heightAt, packedAt]
    cases bounded : GifCanvas.isBounded { width, height } with
    | false => simp
    | true =>
        rw [skipColorTable_eq (show 13 ≤ data.length by omega)]
        cases moved : advanceGifOffset 13 (colorTableSize packed) data.length with
        | none => simp
        | some offset =>
            have enough : data.length - offset < data.length := by
              have := (advanceGifOffset_eq_some.mp moved).1
              omega
            simp [boundedGifBlocksChecked_eq (pixels_ne_zero bounded) enough]

end SignalPurple
