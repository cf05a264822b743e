import SignalPurple.Core.Media.GifReads
import SignalPurple.Core.Event

/-! # The GIF parser of the adapter

`inline_image.c` checks a GIF again before it is shown, with arithmetic in the fixed widths
of C. It gives the same answer as the recognizer of the core. A read outside of the buffer is
a failure of its own; the data is never null.
-/

namespace SignalPurple

namespace InlineImage

def maxEdge : Int := 8192
def maxPixels : UInt64 := 16 * 1000 * 1000
def maxBytes : UInt64 := 8 * 1024 * 1024
def maxGifPixelFrames : UInt64 := 8 * 1000 * 1000

/-- `memcmp` looks at as many bytes as the signature has. -/
def memcmpEqual (data signature : List UInt8) : Option Bool :=
  if signature.length ≤ data.length then some (data.take signature.length == signature) else none

def hasSignature (data : List UInt8) (size : UInt64) (signature : List UInt8) : Option Bool :=
  if UInt64.ofNat signature.length ≤ size then memcmpEqual data signature else some false

def isGif (data : List UInt8) (size : UInt64) : Option Bool :=
  match hasSignature data size gif87aSignature with
  | none => none
  | some true => some true
  | some false => hasSignature data size gif89aSignature

def gifReadU16 (data : List UInt8) (offset : UInt64) : Option UInt16 :=
  match data[offset.toNat]?, data[(offset + 1).toNat]? with
  | some low, some high => some (low.toUInt32 ||| (high.toUInt32 <<< 8)).toUInt16
  | _, _ => none

def gifAdvance (offset amount size : UInt64) : Option UInt64 :=
  if size < offset ∨ size - offset < amount then none else some (offset + amount)

theorem gifAdvance_eq_some {offset amount size next : UInt64} :
    gifAdvance offset amount size = some next ↔
      next.toNat = offset.toNat + amount.toNat ∧ next.toNat ≤ size.toNat := by
  have sizeFits := size.toNat_lt
  unfold gifAdvance
  by_cases outside : size < offset
  · rw [if_pos (.inl outside)]
    have := UInt64.lt_iff_toNat_lt.mp outside
    simp only [reduceCtorEq, false_iff]
    omega
  · have inside : offset ≤ size := UInt64.not_lt.mp outside
    have room := UInt64.toNat_sub_of_le _ _ inside
    have := UInt64.le_iff_toNat_le.mp inside
    by_cases short : size - offset < amount
    · rw [if_pos (.inr short)]
      have := UInt64.lt_iff_toNat_lt.mp short
      simp only [reduceCtorEq, false_iff]
      omega
    · rw [if_neg (not_or.mpr ⟨outside, short⟩), Option.some.injEq, ← UInt64.toNat_inj,
        UInt64.toNat_add]
      have := UInt64.le_iff_toNat_le.mp (UInt64.not_lt.mp short)
      omega

theorem toNat_add_one {offset size : UInt64} (within : offset < size) :
    (offset + 1).toNat = offset.toNat + 1 := by
  have := UInt64.lt_iff_toNat_lt.mp within
  have := size.toNat_lt
  rw [UInt64.toNat_add, UInt64.toNat_one]
  omega

theorem short_iff (size offset : UInt64) :
    (size < offset ∨ size - offset < 9) ↔
      size.toNat < offset.toNat ∨ size.toNat - offset.toNat < 9 := by
  rw [UInt64.lt_iff_toNat_lt, UInt64.lt_iff_toNat_lt]
  by_cases inside : offset ≤ size
  · rw [UInt64.toNat_sub_of_le _ _ inside]
    rfl
  · have := UInt64.lt_iff_toNat_lt.mp (UInt64.not_le.mp inside)
    simp [this]

def gifSkipSubBlocks (data : List UInt8) (size offset : UInt64) : Option (Option UInt64) :=
  if _within : offset < size then
    match data[offset.toNat]? with
    | none => none
    | some blockSize =>
        if blockSize = 0 then some (some (offset + 1))
        else
          match _moved : gifAdvance (offset + 1) blockSize.toUInt64 size with
          | none => some none
          | some next => gifSkipSubBlocks data size next
  else some none
termination_by size.toNat - offset.toNat
decreasing_by
  have := gifAdvance_eq_some.mp _moved
  have := toNat_add_one _within
  have := UInt64.lt_iff_toNat_lt.mp _within
  omega

def gifSkipColorTable (packed : UInt8) (offset size : UInt64) : Option UInt64 :=
  if packed &&& 0x80 ≠ 0 then gifAdvance offset (3 <<< ((packed &&& 0x07).toUInt64 + 1)) size
  else some offset

def gifSkipCodes (data : List UInt8) (size : UInt64) (packed : UInt8) (offset : UInt64) :
    Option (Option UInt64) :=
  match gifSkipColorTable packed offset size with
  | none => some none
  | some codes =>
      if size ≤ codes then some none
      else
        match data[codes.toNat]? with
        | none => none
        | some codeSize =>
            if codeSize < 2 ∨ 8 < codeSize then some none
            else gifSkipSubBlocks data size (codes + 1)

structure Canvas where
  width : UInt16
  height : UInt16

def Canvas.pixels (canvas : Canvas) : UInt64 := canvas.width.toUInt64 * canvas.height.toUInt64

def gifSkipImage (data : List UInt8) (size : UInt64) (canvas : Canvas) (offset frames : UInt64) :
    Option (Option UInt64) :=
  if size < offset ∨ size - offset < 9 then some none
  else
    match gifReadU16 data offset, gifReadU16 data (offset + 2), gifReadU16 data (offset + 4),
      gifReadU16 data (offset + 6), data[(offset + 8).toNat]? with
    | some left, some top, some width, some height, some imagePacked =>
        if width = 0 ∨ height = 0 ∨ canvas.width.toUInt32 < left.toUInt32 + width.toUInt32 ∨
            canvas.height.toUInt32 < top.toUInt32 + height.toUInt32 then some none
        else if canvas.pixels = 0 then none
        else if maxGifPixelFrames / canvas.pixels < frames then some none
        else gifSkipCodes data size imagePacked (offset + 9)
    | _, _, _, _, _ => none

theorem lt_of_gifSkipSubBlocks {data : List UInt8} {size offset next : UInt64}
    (skipped : gifSkipSubBlocks data size offset = some (some next)) :
    offset.toNat < next.toNat := by
  fun_induction gifSkipSubBlocks data size offset with
  | case1 => cases skipped
  | case2 offset within =>
      obtain rfl : _ = next := Option.some.inj (Option.some.inj skipped)
      have := toNat_add_one within
      omega
  | case3 => cases skipped
  | case4 offset within _ _ _ after moved induction =>
      have := gifAdvance_eq_some.mp moved
      have := toNat_add_one within
      have := induction skipped
      omega
  | case5 => cases skipped

theorem lt_of_gifSkipCodes {data : List UInt8} {size offset next : UInt64} {packed : UInt8}
    (skipped : gifSkipCodes data size packed offset = some (some next)) :
    offset.toNat < next.toNat := by
  unfold gifSkipCodes at skipped
  split at skipped
  next => cases skipped
  next codes table =>
    have moved : offset.toNat ≤ codes.toNat := by
      unfold gifSkipColorTable at table
      split at table
      · rw [(gifAdvance_eq_some.mp table).1]
        exact Nat.le_add_right _ _
      · exact Nat.le_of_eq (congrArg UInt64.toNat (Option.some.inj table))
    split at skipped
    next => cases skipped
    next inside =>
      split at skipped
      · cases skipped
      · split at skipped
        · cases skipped
        · have := lt_of_gifSkipSubBlocks skipped
          have := toNat_add_one (UInt64.not_le.mp inside)
          omega

theorem lt_of_gifSkipImage {data : List UInt8} {size offset frames next : UInt64}
    {canvas : Canvas} (skipped : gifSkipImage data size canvas offset frames = some (some next)) :
    offset.toNat < next.toNat := by
  unfold gifSkipImage at skipped
  split at skipped
  next => cases skipped
  next long =>
    rw [short_iff] at long
    have ahead : (offset + 9).toNat = offset.toNat + 9 := by
      have := size.toNat_lt
      rw [UInt64.toNat_add]
      have : (9 : UInt64).toNat = 9 := rfl
      omega
    split at skipped
    · split at skipped
      · cases skipped
      · split at skipped
        · cases skipped
        · split at skipped
          · cases skipped
          · have := lt_of_gifSkipCodes skipped
            omega
    · cases skipped

def gifBlocksAreBounded (data : List UInt8) (size : UInt64) (canvas : Canvas)
    (offset frames : UInt64) : Option Bool :=
  if _within : offset < size then
    match data[offset.toNat]? with
    | none => none
    | some marker =>
        if marker = 0x3b then some (decide (0 < frames))
        else if marker = 0x21 then
          match _moved : gifAdvance (offset + 1) 1 size with
          | none => some false
          | some label =>
              match _skipped : gifSkipSubBlocks data size label with
              | none => none
              | some none => some false
              | some (some next) => gifBlocksAreBounded data size canvas next frames
        else if marker = 0x2c then
          match _skipped : gifSkipImage data size canvas (offset + 1) (frames + 1) with
          | none => none
          | some none => some false
          | some (some next) => gifBlocksAreBounded data size canvas next (frames + 1)
        else some false
  else some false
termination_by size.toNat - offset.toNat
decreasing_by
  · have := gifAdvance_eq_some.mp _moved
    have := lt_of_gifSkipSubBlocks _skipped
    have := toNat_add_one _within
    have := UInt64.lt_iff_toNat_lt.mp _within
    omega
  · have := lt_of_gifSkipImage _skipped
    have := toNat_add_one _within
    have := UInt64.lt_iff_toNat_lt.mp _within
    omega

/-- A conversion of an `int` to `guint64`. -/
def toGuint64 (value : Int) : UInt64 := UInt64.ofInt value

def dimensionsAreSupported (width height : Int) : Bool :=
  decide (0 < width ∧ 0 < height ∧ width ≤ maxEdge ∧ height ≤ maxEdge) &&
    decide (toGuint64 width * toGuint64 height ≤ maxPixels)

def gifIsBounded (data : List UInt8) (size : UInt64) : Option Bool :=
  if size < 13 ∨ maxBytes < size then some false
  else
    match isGif data size with
    | none => none
    | some false => some false
    | some true =>
        match gifReadU16 data 6, gifReadU16 data 8 with
        | some width, some height =>
            if !dimensionsAreSupported width.toNat height.toNat then some false
            else
              match data[10]? with
              | none => none
              | some packed =>
                  match gifSkipColorTable packed 13 size with
                  | none => some false
                  | some offset => gifBlocksAreBounded data size { width, height } offset 0
        | _, _ => none

/-! ## Widths -/

theorem toNat_tableSize (packed : UInt8) :
    ((3 : UInt64) <<< ((packed &&& 0x07).toUInt64 + 1)).toNat =
      3 <<< ((packed &&& 0x07).toNat + 1) := by
  have small : (packed &&& 0x07).toNat < 8 := by
    rw [UInt8.toNat_and]
    exact Nat.lt_succ_of_le Nat.and_le_right
  have sizes : ∀ exponent : Fin 8, ((3 : UInt64) <<< (UInt64.ofNat exponent + 1)).toNat =
      3 <<< (exponent.val + 1) := by
    decide
  rw [← UInt64.ofNat_toNat (x := (packed &&& 0x07).toUInt64), UInt8.toNat_toUInt64]
  exact sizes ⟨_, small⟩

theorem toNat_u16 (low high : UInt8) :
    (low.toUInt32 ||| (high.toUInt32 <<< 8)).toUInt16.toNat = low.toNat + 256 * high.toNat := by
  have lowFits := low.toNat_lt
  have highFits := high.toNat_lt
  have shifted : (high.toUInt32 <<< 8).toNat = 2 ^ 8 * high.toNat := by
    rw [UInt32.toNat_shiftLeft, UInt8.toNat_toUInt32, UInt32.toNat_ofNat, Nat.shiftLeft_eq]
    simp only [Nat.reduceMod, Nat.reducePow]
    omega
  rw [UInt32.toNat_toUInt16, UInt32.toNat_or, UInt8.toNat_toUInt32, shifted, Nat.or_comm,
    ← Nat.two_pow_add_eq_or_of_lt lowFits]
  omega

theorem toNat_pixels (canvas : Canvas) :
    canvas.pixels.toNat = canvas.width.toNat * canvas.height.toNat := by
  have area : canvas.width.toNat * canvas.height.toNat < 2 ^ 16 * 2 ^ 16 :=
    Nat.mul_lt_mul'' canvas.width.toNat_lt canvas.height.toNat_lt
  rw [Canvas.pixels, UInt64.toNat_mul, UInt16.toNat_toUInt64, UInt16.toNat_toUInt64]
  exact Nat.mod_eq_of_lt (Nat.lt_trans area (by decide))

def Canvas.toGif (canvas : Canvas) : GifCanvas where
  width := canvas.width.toNat
  height := canvas.height.toNat

theorem pixels_eq_zero_iff (canvas : Canvas) : canvas.pixels = 0 ↔ canvas.toGif.pixels = 0 := by
  rw [← UInt64.toNat_inj, toNat_pixels]
  rfl

theorem overBudget_iff (canvas : Canvas) (frames : UInt64) :
    maxGifPixelFrames / canvas.pixels < frames ↔
      maxInlineGifPixelFrames / canvas.toGif.pixels < frames.toNat := by
  rw [UInt64.lt_iff_toNat_lt, UInt64.toNat_div, toNat_pixels]
  rfl

theorem toNat_sum (first second : UInt16) :
    (first.toUInt32 + second.toUInt32).toNat = first.toNat + second.toNat := by
  have firstFits := first.toNat_lt
  have secondFits := second.toNat_lt
  rw [UInt32.toNat_add, UInt16.toNat_toUInt32, UInt16.toNat_toUInt32]
  omega

theorem outside_iff (canvas : Canvas) (left top width height : UInt16) :
    (width = 0 ∨ height = 0 ∨ canvas.width.toUInt32 < left.toUInt32 + width.toUInt32 ∨
        canvas.height.toUInt32 < top.toUInt32 + height.toUInt32) ↔
      width.toNat = 0 ∨ height.toNat = 0 ∨ canvas.toGif.width < left.toNat + width.toNat ∨
        canvas.toGif.height < top.toNat + height.toNat := by
  simp only [← UInt16.toNat_inj, UInt32.lt_iff_toNat_lt, toNat_sum, UInt16.toNat_toUInt32]
  rfl

/-! ## The core does the same -/

section Agreement

variable {data : List UInt8} {size : UInt64} (whole : size.toNat = data.length)

include whole

theorem map_gifAdvance (offset amount : UInt64) :
    (gifAdvance offset amount size).map UInt64.toNat =
      advanceGifOffset offset.toNat amount.toNat data.length := by
  cases moved : gifAdvance offset amount size with
  | some next =>
      rw [gifAdvance_eq_some, whole] at moved
      exact (advanceGifOffset_eq_some.mpr moved).symm
  | none =>
      cases other : advanceGifOffset offset.toNat amount.toNat data.length with
      | none => rfl
      | some next =>
          obtain ⟨sum, within⟩ := advanceGifOffset_eq_some.mp other
          have fits : next < 2 ^ 64 := by
            have := size.toNat_lt
            omega
          have found : gifAdvance offset amount size = some (UInt64.ofNat next) :=
            gifAdvance_eq_some.mpr (by
              rw [UInt64.toNat_ofNat', Nat.mod_eq_of_lt fits, whole]
              exact ⟨sum, within⟩)
          cases moved.symm.trans found

theorem map_gifSkipSubBlocks (offset : UInt64) :
    (gifSkipSubBlocks data size offset).map (Option.map UInt64.toNat) =
      skipGifSubBlocksChecked data offset.toNat := by
  fun_induction gifSkipSubBlocks data size offset with
  | case1 offset within missing =>
      have inside := whole ▸ UInt64.lt_iff_toNat_lt.mp within
      obtain ⟨byte, present⟩ := getElem?_of_lt inside
      cases missing.symm.trans present
  | case2 offset within here =>
      rw [skipGifSubBlocksChecked_of_some here]
      simp [toNat_add_one within]
  | case3 offset within blockSize here filled stuck =>
      have agree := map_gifAdvance whole (offset + 1) blockSize.toUInt64
      rw [stuck, toNat_add_one within, UInt8.toNat_toUInt64] at agree
      rw [skipGifSubBlocksChecked_of_some here, if_neg filled, ← agree]
      rfl
  | case4 offset within blockSize here filled next moved induction =>
      have agree := map_gifAdvance whole (offset + 1) blockSize.toUInt64
      rw [moved, toNat_add_one within, UInt8.toNat_toUInt64] at agree
      rw [skipGifSubBlocksChecked_of_some here, if_neg filled, ← agree]
      exact induction
  | case5 offset outside =>
      have := UInt64.le_iff_toNat_le.mp (UInt64.not_lt.mp outside)
      rw [skipGifSubBlocksChecked_of_none (whole ▸ this)]
      rfl

theorem map_gifSkipColorTable (packed : UInt8) (offset : UInt64) :
    (gifSkipColorTable packed offset size).map UInt64.toNat =
      skipColorTable packed offset.toNat data.length := by
  unfold gifSkipColorTable skipColorTable
  split
  · rw [map_gifAdvance whole, toNat_tableSize]
  · rfl

theorem map_gifSkipCodes (packed : UInt8) (offset : UInt64) :
    (gifSkipCodes data size packed offset).map (Option.map UInt64.toNat) =
      skipGifCodesChecked data packed offset.toNat := by
  unfold gifSkipCodes skipGifCodesChecked
  rw [← map_gifSkipColorTable whole]
  cases gifSkipColorTable packed offset size with
  | none => rfl
  | some codes =>
      by_cases ended : size ≤ codes
      · have ended' : data.length ≤ codes.toNat := whole ▸ UInt64.le_iff_toNat_le.mp ended
        simp [ended, ended']
      · have inside := UInt64.not_le.mp ended
        have inside' : ¬data.length ≤ codes.toNat :=
          Nat.not_le.mpr (whole ▸ UInt64.lt_iff_toNat_lt.mp inside)
        obtain ⟨codeSize, here⟩ := getElem?_of_lt (Nat.not_le.mp inside')
        simp only [if_neg ended, Option.map_some, if_neg inside', here]
        by_cases supported : 2 ≤ codeSize ∧ codeSize ≤ 8
        · have inRange : ¬(codeSize < 2 ∨ 8 < codeSize) := by
            rw [not_or, UInt8.not_lt, UInt8.not_lt]
            exact supported
          rw [if_neg inRange, if_pos supported, map_gifSkipSubBlocks whole, toNat_add_one inside]
        · have outOfRange : codeSize < 2 ∨ 8 < codeSize := by
            rw [← UInt8.not_le, ← UInt8.not_le]
            exact not_and_or.mp supported
          rw [if_pos outOfRange, if_neg supported]
          rfl

theorem toNat_add_of_room {offset : UInt64} (amount : UInt64)
    (room : offset.toNat + amount.toNat ≤ data.length) :
    (offset + amount).toNat = offset.toNat + amount.toNat := by
  have := size.toNat_lt
  rw [UInt64.toNat_add]
  omega

theorem gifReadU16_eq (offset : UInt64) (within : offset.toNat + 1 < data.length) :
    ∃ value, gifReadU16 data offset = some value ∧
      gifU16 data offset.toNat = some value.toNat := by
  have next : (offset + 1).toNat = offset.toNat + 1 := toNat_add_of_room whole 1 within.le
  obtain ⟨low, first⟩ := getElem?_of_lt (Nat.lt_of_succ_lt within)
  obtain ⟨high, second⟩ := getElem?_of_lt within
  refine ⟨(low.toUInt32 ||| (high.toUInt32 <<< 8)).toUInt16, ?_, ?_⟩
  · simp only [gifReadU16, next, first, second]
  · simp only [gifU16, first, second, toNat_u16]

theorem map_gifSkipImage (canvas : Canvas) (offset frames : UInt64) :
    (gifSkipImage data size canvas offset frames).map (Option.map UInt64.toNat) =
      skipGifImageChecked data canvas.toGif offset.toNat frames.toNat := by
  unfold gifSkipImage skipGifImageChecked
  simp only [short_iff, whole]
  by_cases short : data.length < offset.toNat ∨ data.length - offset.toNat < 9
  · simp only [if_pos short]
    rfl
  · simp only [if_neg short]
    have second : (offset + 2).toNat = offset.toNat + 2 :=
      toNat_add_of_room whole 2 (show offset.toNat + 2 ≤ data.length by omega)
    have third : (offset + 4).toNat = offset.toNat + 4 :=
      toNat_add_of_room whole 4 (show offset.toNat + 4 ≤ data.length by omega)
    have fourth : (offset + 6).toNat = offset.toNat + 6 :=
      toNat_add_of_room whole 6 (show offset.toNat + 6 ≤ data.length by omega)
    have fifth : (offset + 8).toNat = offset.toNat + 8 :=
      toNat_add_of_room whole 8 (show offset.toNat + 8 ≤ data.length by omega)
    have last : (offset + 9).toNat = offset.toNat + 9 :=
      toNat_add_of_room whole 9 (show offset.toNat + 9 ≤ data.length by omega)
    obtain ⟨left, leftAt, leftAt'⟩ := gifReadU16_eq whole offset (by omega)
    obtain ⟨top, topAt, topAt'⟩ := gifReadU16_eq whole (offset + 2) (by omega)
    obtain ⟨width, widthAt, widthAt'⟩ := gifReadU16_eq whole (offset + 4) (by omega)
    obtain ⟨height, heightAt, heightAt'⟩ := gifReadU16_eq whole (offset + 6) (by omega)
    obtain ⟨packed, packedAt⟩ := getElem?_of_lt (show offset.toNat + 8 < data.length by omega)
    rw [second] at topAt'
    rw [third] at widthAt'
    rw [fourth] at heightAt'
    simp only [leftAt, topAt, widthAt, heightAt, fifth, packedAt, leftAt', topAt', widthAt',
      heightAt', outside_iff, pixels_eq_zero_iff, overBudget_iff, divChecked]
    split
    · rfl
    · by_cases empty : canvas.toGif.pixels = 0
      · simp only [if_pos empty]
        rfl
      · simp only [if_neg empty]
        split
        · rfl
        · rw [map_gifSkipCodes whole, last]

theorem advance_label {offset : UInt64} (within : offset < size) :
    advanceGifOffset (offset.toNat + 1) 1 data.length =
      (gifAdvance (offset + 1) 1 size).map UInt64.toNat := by
  rw [map_gifAdvance whole, toNat_add_one within]
  rfl

/-- There are never more frames than bytes, so that their count does not overflow. -/
theorem toNat_frames {offset frames : UInt64} (within : offset < size)
    (counted : frames.toNat ≤ offset.toNat) : (frames + 1).toNat = frames.toNat + 1 := by
  have inside := whole ▸ UInt64.lt_iff_toNat_lt.mp within
  exact toNat_add_of_room whole 1 (show frames.toNat + 1 ≤ data.length by omega)

theorem skip_image {canvas : Canvas} {offset frames : UInt64} (within : offset < size)
    (counted : frames.toNat ≤ offset.toNat) :
    skipGifImageChecked data canvas.toGif (offset.toNat + 1) (frames.toNat + 1) =
      (gifSkipImage data size canvas (offset + 1) (frames + 1)).map (Option.map UInt64.toNat) := by
  rw [map_gifSkipImage whole, toNat_add_one within, toNat_frames whole within counted]

theorem gifBlocksAreBounded_eq (canvas : Canvas) (offset frames : UInt64)
    (counted : frames.toNat ≤ offset.toNat) :
    gifBlocksAreBounded data size canvas offset frames =
      boundedGifBlocksChecked data canvas.toGif offset.toNat frames.toNat := by
  fun_induction gifBlocksAreBounded data size canvas offset frames with
  | case1 offset frames within missing =>
      have inside := whole ▸ UInt64.lt_iff_toNat_lt.mp within
      obtain ⟨byte, present⟩ := getElem?_of_lt inside
      cases missing.symm.trans present
  | case2 offset frames within here =>
      rw [boundedGifBlocksChecked_of_some here]
      simp [UInt64.lt_iff_toNat_lt]
  | case3 offset frames within stuck here =>
      rw [boundedGifBlocksChecked_of_some here, advance_label whole within, stuck]
      rfl
  | case4 offset frames within label moved failed here =>
      rw [boundedGifBlocksChecked_of_some here, advance_label whole within, moved]
      simp [← map_gifSkipSubBlocks whole, failed]
  | case5 offset frames within label moved stuck here =>
      rw [boundedGifBlocksChecked_of_some here, advance_label whole within, moved]
      simp [← map_gifSkipSubBlocks whole, stuck]
  | case6 offset frames within label moved next skipped here _ induction =>
      have forward : frames.toNat ≤ next.toNat := by
        have := gifAdvance_eq_some.mp moved
        have := toNat_add_one within
        have := lt_of_gifSkipSubBlocks skipped
        omega
      rw [induction forward, boundedGifBlocksChecked_of_some here, advance_label whole within,
        moved]
      simp [← map_gifSkipSubBlocks whole, skipped]
  | case7 offset frames within failed here =>
      rw [boundedGifBlocksChecked_of_some here, skip_image whole within counted, failed]
      rfl
  | case8 offset frames within stuck here =>
      rw [boundedGifBlocksChecked_of_some here, skip_image whole within counted, stuck]
      rfl
  | case9 offset frames within next skipped here _ _ induction =>
      have count := toNat_frames whole within counted
      have forward : (frames + 1).toNat ≤ next.toNat := by
        have := toNat_add_one within
        have := lt_of_gifSkipImage skipped
        omega
      rw [induction forward, boundedGifBlocksChecked_of_some here,
        skip_image whole within counted, skipped, count]
      rfl
  | case10 offset frames within marker here notTrailer notExtension notImage =>
      rw [boundedGifBlocksChecked_of_some here, if_neg notTrailer, if_neg notExtension,
        if_neg notImage]
  | case11 offset frames outside =>
      have := UInt64.le_iff_toNat_le.mp (UInt64.not_lt.mp outside)
      rw [boundedGifBlocksChecked_of_none (whole ▸ this)]

theorem hasSignature_eq {signature : List UInt8} (short : signature.length ≤ data.length) :
    hasSignature data size signature = some (startsWith data signature) := by
  have fits : UInt64.ofNat signature.length ≤ size := by
    have := size.toNat_lt
    rw [UInt64.le_iff_toNat_le, UInt64.toNat_ofNat', Nat.mod_eq_of_lt (by omega), whole]
    exact short
  have same : (data.take signature.length == signature) = startsWith data signature := by
    rw [Bool.eq_iff_iff, beq_iff_eq, startsWith, List.isPrefixOf_iff_prefix,
      List.prefix_iff_eq_take, eq_comm]
  rw [hasSignature, if_pos fits, memcmpEqual, if_pos short, same]

theorem isGif_eq (long : 6 ≤ data.length) :
    isGif data size = some (SignalPurple.isGif data) := by
  have early : hasSignature data size gif87aSignature = _ := hasSignature_eq whole long
  have late : hasSignature data size gif89aSignature = _ := hasSignature_eq whole long
  rw [isGif, early, late, SignalPurple.isGif]
  cases startsWith data gif87aSignature <;> rfl

end Agreement

theorem dimensionsAreSupported_eq (canvas : Canvas) :
    dimensionsAreSupported canvas.width.toNat canvas.height.toNat = canvas.toGif.isBounded := by
  have converted (value : UInt16) : toGuint64 value.toNat = value.toUInt64 := by
    have fits := value.toNat_lt
    rw [toGuint64, UInt64.ofInt, ← UInt64.toNat_inj, UInt64.toNat_ofNat', UInt16.toNat_toUInt64]
    omega
  have area : canvas.width.toUInt64 * canvas.height.toUInt64 ≤ maxPixels ↔
      canvas.toGif.pixels ≤ maxInlineGifPixels := by
    rw [UInt64.le_iff_toNat_le]
    exact (toNat_pixels canvas).symm ▸ Iff.rfl
  rw [dimensionsAreSupported, converted, converted, Bool.eq_iff_iff, Bool.and_eq_true, decide_eq_true_iff,
    decide_eq_true_iff, area, GifCanvas.isBounded, decide_eq_true_iff]
  simp only [maxEdge, maxInlineGifEdge, Canvas.toGif]
  omega

/-- The parser of the adapter ends without a read outside of the data, and its answer is that
of the recognizer of the core. -/
theorem gifIsBounded_eq_core (data : Bytes) :
    gifIsBounded data.toList data.size = boundedInlineGifChecked data.toList ∧
      boundedInlineGifChecked data.toList = some (boundedInlineGif data.toList) := by
  refine ⟨?_, boundedInlineGifChecked_eq data.toList⟩
  have whole : data.size.toNat = data.toList.length := data.toNat_size
  have limits : (data.size < 13 ∨ maxBytes < data.size) ↔
      data.toList.length < 13 ∨ maxInlineMediaBytes < data.toList.length := by
    rw [UInt64.lt_iff_toNat_lt, UInt64.lt_iff_toNat_lt, whole]
    rfl
  unfold gifIsBounded boundedInlineGifChecked
  simp only [limits]
  by_cases refused : data.toList.length < 13 ∨ maxInlineMediaBytes < data.toList.length
  · rw [if_pos refused, if_pos (refused.imp_right .inl)]
  · have long : 13 ≤ data.toList.length := Nat.le_of_not_lt fun short => refused (.inl short)
    rw [if_neg refused, isGif_eq whole (by omega)]
    cases signed : SignalPurple.isGif data.toList with
    | false => simp
    | true =>
        have accepted : ¬(data.toList.length < 13 ∨ maxInlineMediaBytes < data.toList.length ∨
            true = false) := by
          simpa using refused
        obtain ⟨width, widthAt, coreWidth⟩ : ∃ width, gifReadU16 data.toList 6 = some width ∧
            gifU16 data.toList 6 = some width.toNat :=
          gifReadU16_eq whole 6 (show 6 + 1 < data.toList.length by omega)
        obtain ⟨height, heightAt, coreHeight⟩ : ∃ height, gifReadU16 data.toList 8 = some height ∧
            gifU16 data.toList 8 = some height.toNat :=
          gifReadU16_eq whole 8 (show 8 + 1 < data.toList.length by omega)
        obtain ⟨packed, packedAt⟩ := getElem?_of_lt (show 10 < data.toList.length by omega)
        have supported : dimensionsAreSupported width.toNat height.toNat =
            (GifCanvas.mk width.toNat height.toNat).isBounded :=
          dimensionsAreSupported_eq { width, height }
        have table : skipColorTable packed 13 data.toList.length = _ :=
          (map_gifSkipColorTable whole packed 13).symm
        simp only [if_neg accepted, widthAt, heightAt, coreWidth, coreHeight, packedAt, supported,
          table]
        cases (GifCanvas.mk width.toNat height.toNat).isBounded with
        | false => rfl
        | true =>
            cases gifSkipColorTable packed 13 data.size with
            | none => rfl
            | some offset =>
                exact gifBlocksAreBounded_eq whole { width, height } offset 0 (Nat.zero_le _)

end InlineImage

end SignalPurple
