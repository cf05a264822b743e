import SignalPurple.Core.Media.GifReads
import SignalPurple.Foundation.ByteGrammar

/-! # The GIFs that are shown inline

The format that `bounded_inline_gif` accepts, said without offsets: header, colour tables,
blocks and trailer, with the limits on the canvas and on the number of its frames. The
recognizer accepts the data exactly if such a GIF stands at its front.
-/

namespace SignalPurple

open scoped Computability

/-! ## The format -/

/-- Sub-blocks, each with its length, up to one of length zero. -/
def subBlocks : Language UInt8 :=
  (headed fun size => given (size ≠ 0) (exactly size.toNat))∗ * symbol 0

/-- The table is there if the high bit is set, and then its size is in the low three. -/
def colorTable (packed : UInt8) : Language UInt8 :=
  exactly (if 128 ≤ packed.toNat then 3 * 2 ^ (packed.toNat % 8 + 1) else 0)

def extensionBlock : Language UInt8 := symbol 0x21 * (exactly 1 * subBlocks)

def imageCodes : Language UInt8 :=
  headed fun packed => colorTable packed *
    headed fun codeSize => given (2 ≤ codeSize ∧ codeSize ≤ 8) subBlocks

/-- An image that is not empty and lies in the canvas, from behind its marker. -/
def imageBody (canvas : GifCanvas) : Language UInt8 :=
  u16Headed fun left => u16Headed fun top => u16Headed fun width => u16Headed fun height =>
    given (0 < width ∧ 0 < height ∧ left + width ≤ canvas.width ∧ top + height ≤ canvas.height)
      imageCodes

def imageBlock (canvas : GifCanvas) : Language UInt8 := symbol 0x2c * imageBody canvas

/-- Extension blocks in any number and the given number of image blocks, in any order. -/
inductive GifBlocks (canvas : GifCanvas) : Nat → List UInt8 → Prop where
  | nil : GifBlocks canvas 0 []
  | extension {images : Nat} {block later : List UInt8} (first : block ∈ extensionBlock)
      (rest : GifBlocks canvas images later) : GifBlocks canvas images (block ++ later)
  | image {images : Nat} {block later : List UInt8} (first : block ∈ imageBlock canvas)
      (rest : GifBlocks canvas images later) : GifBlocks canvas (images + 1) (block ++ later)

def gifBlocks (canvas : GifCanvas) (images : Nat) : Language UInt8 :=
  {word | GifBlocks canvas images word}

def gifRest (canvas : GifCanvas) (images : Nat) : Language UInt8 :=
  gifBlocks canvas images * symbol 0x3b

/-- At least one image, and not too many for the canvas. -/
def gifImages (canvas : GifCanvas) : Language UInt8 :=
  {word | ∃ images, 0 < images ∧ images * (canvas.width * canvas.height) ≤ 8000000 ∧
    word ∈ gifRest canvas images}

/-- What follows the signature: the canvas, the packed field, the index of the background
colour and the aspect ratio, the global colour table, and the blocks. -/
def gifScreen : Language UInt8 :=
  u16Headed fun width => u16Headed fun height =>
    given (1 ≤ width ∧ width ≤ 8192 ∧ 1 ≤ height ∧ height ≤ 8192 ∧ width * height ≤ 16000000)
      (headed fun packed => exactly 2 * (colorTable packed * gifImages { width, height }))

def gifSignature : Language UInt8 := {word | word = gif87aSignature ∨ word = gif89aSignature}

def boundedGif : Language UInt8 := gifSignature * gifScreen

/-- A GIF within all bounds stands at the front of data that is not too long. -/
def IsBoundedGif (data : List UInt8) : Prop :=
  13 ≤ data.length ∧ data.length ≤ 8 * 1024 * 1024 ∧ ∃ word ∈ boundedGif, word <+: data

/-! ## Reading the parts -/

theorem colorTableSize_eq (packed : UInt8) :
    colorTableSize packed =
      if 128 ≤ packed.toNat then 3 * 2 ^ (packed.toNat % 8 + 1) else 0 := by
  have low : (packed &&& 0x07).toNat = packed.toNat % 8 := by
    rw [UInt8.toNat_and]
    exact Nat.and_two_pow_sub_one_eq_mod packed.toNat 3
  have high : packed &&& 0x80 = 0 ↔ ¬128 ≤ packed.toNat := by
    have values : ∀ value : Fin 256, value.val &&& 128 = 0 ↔ ¬128 ≤ value.val := by
      decide +kernel
    rw [← UInt8.toNat_inj, UInt8.toNat_and]
    exact values ⟨packed.toNat, packed.toNat_lt⟩
  unfold colorTableSize
  by_cases flagged : 128 ≤ packed.toNat
  · rw [if_neg (fun unset => high.mp unset flagged), if_pos flagged, low]
  · rw [if_pos (high.mpr flagged), if_neg flagged]

theorem reads_colorTable {packed : UInt8} {data : List UInt8} {start stop : Nat} :
    Reads (colorTable packed) data start stop ↔
      advanceGifOffset start (colorTableSize packed) data.length = some stop := by
  rw [colorTable, reads_exactly, ← colorTableSize_eq, advanceGifOffset_eq_some]

theorem gifU16_eq_some {data : List UInt8} {offset value : Nat} :
    gifU16 data offset = some value ↔
      ∃ low high, data[offset]? = some low ∧ data[offset + 1]? = some high ∧
        value = low.toNat + 256 * high.toNat := by
  unfold gifU16
  split
  next low high first second =>
    simp [first, second, eq_comm]
  next missing =>
    simp only [reduceCtorEq, false_iff]
    rintro ⟨low, high, first, second, _⟩
    exact missing low high first second

theorem reads_u16 {rest : Nat → Language UInt8} {data : List UInt8} {start stop : Nat} :
    Reads (u16Headed rest) data start stop ↔
      ∃ value, gifU16 data start = some value ∧ Reads (rest value) data (start + 2) stop := by
  simp only [reads_u16Headed, gifU16_eq_some]
  constructor
  · rintro ⟨low, high, first, second, reads⟩
    exact ⟨_, ⟨low, high, first, second, rfl⟩, reads⟩
  · rintro ⟨_, ⟨low, high, first, second, rfl⟩, reads⟩
    exact ⟨low, high, first, second, reads⟩

theorem reads_subBlocks {data : List UInt8} {start stop : Nat} :
    Reads subBlocks data start stop ↔
      data[start]? = some 0 ∧ stop = start + 1 ∨
        ∃ size, data[start]? = some size ∧ size ≠ 0 ∧
          ∃ next, advanceGifOffset (start + 1) size.toNat data.length = some next ∧
            Reads subBlocks data next stop := by
  rw [subBlocks, reads_kstar_mul, reads_symbol]
  apply or_congr_right
  simp only [reads_headed, reads_given, reads_exactly, advanceGifOffset_eq_some]
  constructor
  · rintro ⟨next, ⟨size, here, filled, block⟩, rest⟩
    exact ⟨size, here, filled, next, block, rest⟩
  · rintro ⟨size, here, filled, next, block, rest⟩
    exact ⟨next, ⟨size, here, filled, block⟩, rest⟩

theorem skipGifSubBlocks_eq_some {data : List UInt8} {fuel offset next : Nat}
    (enough : data.length - offset < fuel) :
    skipGifSubBlocks data fuel offset = some next ↔ Reads subBlocks data offset next := by
  induction fuel generalizing offset with
  | zero => exact absurd enough (Nat.not_lt_zero _)
  | succ rounds induction =>
      rw [skipGifSubBlocks, reads_subBlocks]
      cases here : data[offset]? with
      | none => simp
      | some size =>
          have within := (List.getElem?_eq_some_iff.mp here).1
          by_cases empty : size = 0
          · simp [empty, eq_comm]
          · simp only [if_neg empty, Option.bind_eq_some_iff, Option.some.injEq]
            constructor
            · rintro ⟨after, moved, skipped⟩
              have forward := advanceGifOffset_eq_some.mp moved
              have left : data.length - after < rounds := by omega
              exact .inr ⟨size, rfl, empty, after, moved, (induction left).mp skipped⟩
            · rintro (⟨ended, _⟩ | ⟨_, rfl, _, after, moved, rest⟩)
              · exact absurd ended empty
              · have forward := advanceGifOffset_eq_some.mp moved
                have left : data.length - after < rounds := by omega
                exact ⟨after, moved, (induction left).mpr rest⟩

/-- The frame of an image lies in the canvas. -/
def FrameAt (data : List UInt8) (canvas : GifCanvas) (offset : Nat) : Prop :=
  ∃ left top width height, gifU16 data offset = some left ∧ gifU16 data (offset + 2) = some top ∧
    gifU16 data (offset + 4) = some width ∧ gifU16 data (offset + 6) = some height ∧
    0 < width ∧ 0 < height ∧ left + width ≤ canvas.width ∧ top + height ≤ canvas.height

theorem gifFrameFits_iff {data : List UInt8} {canvas : GifCanvas} {offset frames : Nat} :
    gifFrameFits data canvas offset frames = true ↔
      FrameAt data canvas offset ∧ frames ≤ maxInlineGifPixelFrames / canvas.pixels := by
  unfold gifFrameFits FrameAt
  split
  next left top width height leftAt topAt widthAt heightAt =>
    simp only [decide_eq_true_eq, leftAt, topAt, widthAt, heightAt]
    constructor
    · rintro ⟨wide, high, right, bottom, budget⟩
      exact ⟨⟨left, top, width, height, rfl, rfl, rfl, rfl, Nat.pos_of_ne_zero wide,
        Nat.pos_of_ne_zero high, right, bottom⟩, budget⟩
    · rintro ⟨⟨_, _, _, _, ⟨⟩, ⟨⟩, ⟨⟩, ⟨⟩, wide, high, right, bottom⟩, budget⟩
      exact ⟨wide.ne', high.ne', right, bottom, budget⟩
  next missing =>
    simp only [Bool.false_eq_true, false_iff]
    rintro ⟨⟨left, top, width, height, leftAt, topAt, widthAt, heightAt, _⟩, _⟩
    exact missing left top width height leftAt topAt widthAt heightAt

theorem reads_imageBody {data : List UInt8} {canvas : GifCanvas} {start stop : Nat} :
    Reads (imageBody canvas) data start stop ↔
      FrameAt data canvas start ∧ Reads imageCodes data (start + 8) stop := by
  simp only [imageBody, reads_u16, reads_given, FrameAt]
  constructor
  · rintro ⟨left, leftAt, top, topAt, width, widthAt, height, heightAt, inside, codes⟩
    exact ⟨⟨left, top, width, height, leftAt, topAt, widthAt, heightAt, inside⟩, codes⟩
  · rintro ⟨⟨left, top, width, height, leftAt, topAt, widthAt, heightAt, inside⟩, codes⟩
    exact ⟨left, leftAt, top, topAt, width, widthAt, height, heightAt, inside, codes⟩

theorem reads_imageCodes {data : List UInt8} {start stop : Nat} :
    Reads imageCodes data start stop ↔
      ∃ packed, data[start]? = some packed ∧
        ∃ codes, advanceGifOffset (start + 1) (colorTableSize packed) data.length = some codes ∧
          ∃ codeSize, data[codes]? = some codeSize ∧ (2 ≤ codeSize ∧ codeSize ≤ 8) ∧
            Reads subBlocks data (codes + 1) stop := by
  simp only [imageCodes, reads_headed, reads_mul, reads_colorTable, reads_given]

theorem skipGifImage_eq_some {data : List UInt8} {canvas : GifCanvas}
    {offset frames next : Nat} :
    skipGifImage data canvas offset frames = some next ↔
      frames ≤ maxInlineGifPixelFrames / canvas.pixels ∧
        Reads (imageBody canvas) data offset next := by
  have enough {codes : Nat} {codeSize : UInt8} (here : data[codes]? = some codeSize) :
      data.length - (codes + 1) < data.length := by
    have := (List.getElem?_eq_some_iff.mp here).1
    omega
  rw [reads_imageBody, reads_imageCodes]
  unfold skipGifImage
  by_cases short : data.length < offset ∨ data.length - offset < 9
  · rw [if_pos short]
    simp only [reduceCtorEq, false_iff]
    rintro ⟨_, _, packed, packedAt, _⟩
    have := (List.getElem?_eq_some_iff.mp packedAt).1
    omega
  · rw [if_neg short]
    by_cases fits : gifFrameFits data canvas offset frames = true
    · obtain ⟨inside, budget⟩ := gifFrameFits_iff.mp fits
      simp only [fits, Bool.not_true, Bool.false_eq_true, if_false, Option.bind_eq_bind,
        Option.bind_eq_some_iff, Option.ite_none_right_eq_some, inside, budget, true_and]
      constructor
      · rintro ⟨packed, packedAt, codes, table, codeSize, here, supported, skipped⟩
        exact ⟨packed, packedAt, codes, table, codeSize, here, supported,
          (skipGifSubBlocks_eq_some (enough here)).mp skipped⟩
      · rintro ⟨packed, packedAt, codes, table, codeSize, here, supported, rest⟩
        exact ⟨packed, packedAt, codes, table, codeSize, here, supported,
          (skipGifSubBlocks_eq_some (enough here)).mpr rest⟩
    · simp only [fits, Bool.not_false, if_true, reduceCtorEq, false_iff]
      rintro ⟨budget, inside, _⟩
      exact fits (gifFrameFits_iff.mpr ⟨inside, budget⟩)

/-! ## Reading the blocks -/

theorem reads_extensionBlock {data : List UInt8} {start stop : Nat} :
    Reads extensionBlock data start stop ↔
      data[start]? = some 0x21 ∧
        (advanceGifOffset (start + 1) 1 data.length).bind (skipGifSubBlocks data data.length) =
          some stop := by
  have enough {label : Nat} (moved : advanceGifOffset (start + 1) 1 data.length = some label) :
      data.length - label < data.length := by
    have := advanceGifOffset_eq_some.mp moved
    omega
  simp only [extensionBlock, reads_mul, reads_symbol, reads_exactly,
    ← advanceGifOffset_eq_some, Option.bind_eq_some_iff]
  constructor
  · rintro ⟨_, ⟨marker, rfl⟩, label, moved, blocks⟩
    exact ⟨marker, label, moved, (skipGifSubBlocks_eq_some (enough moved)).mpr blocks⟩
  · rintro ⟨marker, label, moved, skipped⟩
    exact ⟨_, ⟨marker, rfl⟩, label, moved,
      (skipGifSubBlocks_eq_some (enough moved)).mp skipped⟩

theorem reads_imageBlock {data : List UInt8} {canvas : GifCanvas} {start stop : Nat} :
    Reads (imageBlock canvas) data start stop ↔
      data[start]? = some 0x2c ∧ Reads (imageBody canvas) data (start + 1) stop := by
  simp only [imageBlock, reads_mul, reads_symbol]
  constructor
  · rintro ⟨_, ⟨marker, rfl⟩, body⟩
    exact ⟨marker, body⟩
  · rintro ⟨marker, body⟩
    exact ⟨_, ⟨marker, rfl⟩, body⟩

theorem reads_gifBlocks {data : List UInt8} {canvas : GifCanvas} {images start stop : Nat} :
    Reads (gifBlocks canvas images) data start stop ↔
      images = 0 ∧ Reads (1 : Language UInt8) data start stop ∨
      Reads (extensionBlock * gifBlocks canvas images) data start stop ∨
      ∃ earlier, images = earlier + 1 ∧
        Reads (imageBlock canvas * gifBlocks canvas earlier) data start stop := by
  constructor
  · rintro ⟨word, blocks, place⟩
    cases blocks with
    | nil => exact .inl ⟨rfl, [], Language.nil_mem_one, place⟩
    | extension first rest =>
        exact .inr (.inl ⟨_, Language.append_mem_mul first rest, place⟩)
    | image first rest =>
        exact .inr (.inr ⟨_, rfl, _, Language.append_mem_mul first rest, place⟩)
  · rintro (⟨rfl, word, empty, place⟩ | ⟨word, product, place⟩ |
      ⟨earlier, rfl, word, product, place⟩)
    · obtain rfl := (Language.mem_one word).mp empty
      exact ⟨[], .nil, place⟩
    · obtain ⟨block, first, later, rest, rfl⟩ := Language.mem_mul.mp product
      exact ⟨_, .extension first rest, place⟩
    · obtain ⟨block, first, later, rest, rfl⟩ := Language.mem_mul.mp product
      exact ⟨_, .image first rest, place⟩

theorem reads_gifRest {data : List UInt8} {canvas : GifCanvas} {images start stop : Nat} :
    Reads (gifRest canvas images) data start stop ↔
      images = 0 ∧ data[start]? = some 0x3b ∧ stop = start + 1 ∨
      (∃ next, Reads extensionBlock data start next ∧
        Reads (gifRest canvas images) data next stop) ∨
      ∃ earlier, images = earlier + 1 ∧ ∃ next, Reads (imageBlock canvas) data start next ∧
        Reads (gifRest canvas earlier) data next stop := by
  simp only [gifRest, reads_mul]
  constructor
  · rintro ⟨stopped, blocks, trailer⟩
    rcases reads_gifBlocks.mp blocks with ⟨none, empty⟩ | extension | ⟨earlier, count, image⟩
    · obtain ⟨rfl, _⟩ := reads_one.mp empty
      exact .inl ⟨none, reads_symbol.mp trailer⟩
    · obtain ⟨next, first, rest⟩ := reads_mul.mp extension
      exact .inr (.inl ⟨next, first, stopped, rest, trailer⟩)
    · obtain ⟨next, first, rest⟩ := reads_mul.mp image
      exact .inr (.inr ⟨earlier, count, next, first, stopped, rest, trailer⟩)
  · rintro (⟨none, trailer⟩ | ⟨next, first, stopped, rest, trailer⟩ |
      ⟨earlier, count, next, first, stopped, rest, trailer⟩)
    · have within := (List.getElem?_eq_some_iff.mp trailer.1).1
      exact ⟨start, reads_gifBlocks.mpr (.inl ⟨none, reads_one.mpr ⟨rfl, within.le⟩⟩),
        reads_symbol.mpr trailer⟩
    · exact ⟨stopped, reads_gifBlocks.mpr (.inr (.inl (reads_mul.mpr ⟨next, first, rest⟩))),
        trailer⟩
    · exact ⟨stopped, reads_gifBlocks.mpr (.inr (.inr ⟨earlier, count,
        reads_mul.mpr ⟨next, first, rest⟩⟩)), trailer⟩

section Markers

variable {data : List UInt8} {canvas : GifCanvas} {images start stop : Nat}

theorem reads_gifRest_of_trailer (here : data[start]? = some 0x3b) :
    Reads (gifRest canvas images) data start stop ↔ images = 0 ∧ stop = start + 1 := by
  rw [reads_gifRest]
  simp [reads_extensionBlock, reads_imageBlock, here]

theorem reads_gifRest_of_extension (here : data[start]? = some 0x21) :
    Reads (gifRest canvas images) data start stop ↔
      ∃ next, (advanceGifOffset (start + 1) 1 data.length).bind
          (skipGifSubBlocks data data.length) = some next ∧
        Reads (gifRest canvas images) data next stop := by
  rw [reads_gifRest]
  simp only [reads_extensionBlock, reads_imageBlock, here]
  simp

theorem reads_gifRest_of_image (here : data[start]? = some 0x2c) :
    Reads (gifRest canvas images) data start stop ↔
      ∃ earlier, images = earlier + 1 ∧
        ∃ next, Reads (imageBody canvas) data (start + 1) next ∧
          Reads (gifRest canvas earlier) data next stop := by
  rw [reads_gifRest]
  simp only [reads_extensionBlock, reads_imageBlock, here]
  simp

theorem marker_of_reads_gifRest (reads : Reads (gifRest canvas images) data start stop) :
    data[start]? = some 0x3b ∨ data[start]? = some 0x21 ∨ data[start]? = some 0x2c := by
  rcases reads_gifRest.mp reads with ⟨_, trailer, _⟩ | ⟨_, extension, _⟩ | ⟨_, _, _, image, _⟩
  · exact .inl trailer
  · exact .inr (.inl (reads_extensionBlock.mp extension).1)
  · exact .inr (.inr (reads_imageBlock.mp image).1)

end Markers

/-- The loop over blocks reads the rest of a GIF whose images, with those before, are within
the budget. -/
theorem boundedGifBlocks_iff {data : List UInt8} {canvas : GifCanvas} {fuel offset frames : Nat}
    (enough : data.length - offset < fuel)
    (budget : frames ≤ maxInlineGifPixelFrames / canvas.pixels) :
    boundedGifBlocks data canvas fuel offset frames = true ↔
      ∃ images stop, Reads (gifRest canvas images) data offset stop ∧ 0 < frames + images ∧
        frames + images ≤ maxInlineGifPixelFrames / canvas.pixels := by
  induction fuel generalizing offset frames with
  | zero => exact absurd enough (Nat.not_lt_zero _)
  | succ rounds induction =>
      rw [boundedGifBlocks]
      cases here : data[offset]? with
      | none =>
          simp only [Bool.false_eq_true, false_iff]
          rintro ⟨images, stop, reads, _⟩
          simpa [here] using marker_of_reads_gifRest reads
      | some marker =>
          have within := (List.getElem?_eq_some_iff.mp here).1
          by_cases trailer : marker = 0x3b
          · subst trailer
            simp [reads_gifRest_of_trailer here, budget]
          · by_cases extension : marker = 0x21
            · subst extension
              simp only [reads_gifRest_of_extension here]
              cases skipped : (advanceGifOffset (offset + 1) 1 data.length).bind
                  (skipGifSubBlocks data data.length) with
              | none => simp
              | some next =>
                  have forward : offset < next :=
                    lt_of_reads_symbol_mul (reads_extensionBlock.mpr ⟨here, skipped⟩)
                  have left : data.length - next < rounds := by omega
                  simpa using induction left budget
            · by_cases image : marker = 0x2c
              · subst image
                simp only [reads_gifRest_of_image here]
                cases skipped : skipGifImage data canvas (offset + 1) (frames + 1) with
                | none =>
                    simp only [if_neg trailer, if_neg extension, if_true, Bool.false_eq_true,
                      false_iff]
                    rintro ⟨_, stop, ⟨earlier, rfl, next, body, _⟩, _, total⟩
                    have fits : frames + 1 ≤ maxInlineGifPixelFrames / canvas.pixels := by omega
                    cases skipped.symm.trans (skipGifImage_eq_some.mpr ⟨fits, body⟩)
                | some next =>
                    obtain ⟨fits, body⟩ := skipGifImage_eq_some.mp skipped
                    have forward : offset < next :=
                      lt_of_reads_symbol_mul (reads_imageBlock.mpr ⟨here, body⟩)
                    have left : data.length - next < rounds := by omega
                    simp only [if_neg trailer, if_neg extension, if_true, induction left fits]
                    constructor
                    · rintro ⟨images, stop, rest, present, total⟩
                      exact ⟨images + 1, stop, ⟨images, rfl, next, body, rest⟩, by omega,
                        by omega⟩
                    · rintro ⟨_, stop, ⟨earlier, rfl, other, otherBody, rest⟩, present, total⟩
                      have same : other = next := by
                        have read := skipGifImage_eq_some.mpr ⟨fits, otherBody⟩
                        exact Option.some.inj (read.symm.trans skipped)
                      exact ⟨earlier, stop, same ▸ rest, by omega, by omega⟩
              · simp only [if_neg trailer, if_neg extension, if_neg image, Bool.false_eq_true,
                  false_iff]
                rintro ⟨images, stop, reads, _⟩
                simpa [here, trailer, extension, image] using marker_of_reads_gifRest reads

/-! ## Reading the header -/

theorem reads_gifSignature {data : List UInt8} {stop : Nat} :
    Reads gifSignature data 0 stop ↔ isGif data = true ∧ stop = 6 := by
  simp only [isGif, startsWith, Bool.or_eq_true, List.isPrefixOf_iff_prefix]
  constructor
  · rintro ⟨word, signature, before, after, rfl, empty, rfl⟩
    obtain rfl := List.length_eq_zero_iff.mp empty
    rcases signature with rfl | rfl
    · exact ⟨.inl (List.prefix_append _ _), rfl⟩
    · exact ⟨.inr (List.prefix_append _ _), rfl⟩
  · rintro ⟨⟨after, rfl⟩ | ⟨after, rfl⟩, rfl⟩
    · exact ⟨_, .inl rfl, [], after, rfl, rfl, rfl⟩
    · exact ⟨_, .inr rfl, [], after, rfl, rfl, rfl⟩

theorem isBounded_iff {canvas : GifCanvas} :
    canvas.isBounded = true ↔ 1 ≤ canvas.width ∧ canvas.width ≤ 8192 ∧ 1 ≤ canvas.height ∧
      canvas.height ≤ 8192 ∧ canvas.width * canvas.height ≤ 16000000 := by
  rw [GifCanvas.isBounded, decide_eq_true_iff]
  constructor
  · rintro ⟨wide, high, width, height, area⟩
    exact ⟨Nat.pos_of_ne_zero wide, width, Nat.pos_of_ne_zero high, height, area⟩
  · rintro ⟨wide, width, high, height, area⟩
    exact ⟨Nat.ne_zero_of_lt wide, Nat.ne_zero_of_lt high, width, height, area⟩

/-- The frame budget, which the code checks with a division, is a bound on a product. -/
theorem reads_gifImages {data : List UInt8} {canvas : GifCanvas} {start stop : Nat}
    (drawn : canvas.pixels ≠ 0) :
    Reads (gifImages canvas) data start stop ↔
      ∃ images, Reads (gifRest canvas images) data start stop ∧ 0 < 0 + images ∧
        0 + images ≤ maxInlineGifPixelFrames / canvas.pixels := by
  have budget (images : Nat) : 0 + images ≤ maxInlineGifPixelFrames / canvas.pixels ↔
      images * (canvas.width * canvas.height) ≤ 8000000 := by
    rw [Nat.zero_add]
    exact Nat.le_div_iff_mul_le (Nat.pos_of_ne_zero drawn)
  constructor
  · rintro ⟨word, ⟨images, present, within, member⟩, place⟩
    exact ⟨images, ⟨word, member, place⟩, by omega, (budget images).mpr within⟩
  · rintro ⟨images, ⟨word, member, place⟩, present, within⟩
    exact ⟨word, ⟨images, by omega, (budget images).mp within, member⟩, place⟩

theorem reads_gifScreen {data : List UInt8} {start stop : Nat} :
    Reads gifScreen data start stop ↔
      ∃ width, gifU16 data start = some width ∧
        ∃ height, gifU16 data (start + 2) = some height ∧
          (GifCanvas.mk width height).isBounded = true ∧
          ∃ packed, data[start + 4]? = some packed ∧
            ∃ offset, advanceGifOffset (start + 7) (colorTableSize packed) data.length =
                some offset ∧
              Reads (gifImages { width, height }) data offset stop := by
  simp only [gifScreen, reads_u16, reads_given, reads_headed, reads_mul, reads_exactly,
    reads_colorTable, isBounded_iff]
  constructor
  · rintro ⟨width, widthAt, height, heightAt, bounded, packed, packedAt, _, ⟨rfl, _⟩, rest⟩
    exact ⟨width, widthAt, height, heightAt, bounded, packed, packedAt, rest⟩
  · rintro ⟨width, widthAt, height, heightAt, bounded, packed, packedAt, offset, table, images⟩
    have within := (advanceGifOffset_eq_some.mp table)
    exact ⟨width, widthAt, height, heightAt, bounded, packed, packedAt, _, ⟨rfl, by omega⟩,
      offset, table, images⟩

theorem boundedGifBlocks_start {data : List UInt8} {canvas : GifCanvas} {packed : UInt8}
    {offset : Nat} (bounded : canvas.isBounded = true)
    (table : advanceGifOffset 13 (colorTableSize packed) data.length = some offset) :
    boundedGifBlocks data canvas data.length offset 0 = true ↔
      ∃ stop, Reads (gifImages canvas) data offset stop := by
  have enough : data.length - offset < data.length := by
    have := advanceGifOffset_eq_some.mp table
    omega
  simp only [boundedGifBlocks_iff enough (Nat.zero_le _), reads_gifImages (pixels_ne_zero bounded)]
  exact exists_comm

/-- The recognizer accepts exactly the format. -/
theorem boundedInlineGif_iff (data : List UInt8) :
    boundedInlineGif data = true ↔ IsBoundedGif data := by
  rw [IsBoundedGif, ← exists_reads_zero]
  simp only [boundedGif, reads_mul, reads_gifSignature, reads_gifScreen]
  unfold boundedInlineGif
  by_cases refused : data.length < 13 ∨ maxInlineMediaBytes < data.length ∨ isGif data = false
  · rw [if_pos refused]
    simp only [Bool.false_eq_true, false_iff]
    rintro ⟨long, short, _, _, ⟨signature, _⟩, _⟩
    rcases refused with tooShort | tooLong | unsigned
    · omega
    · exact absurd short (Nat.not_le_of_lt tooLong)
    · simp [unsigned] at signature
  · rw [if_neg refused]
    obtain ⟨long, short, signed⟩ : 13 ≤ data.length ∧ data.length ≤ 8 * 1024 * 1024 ∧
        isGif data = true := by
      simpa only [maxInlineMediaBytes, not_or, Nat.not_lt, Bool.not_eq_false] using refused
    constructor
    · intro accepted
      split at accepted
      next width height packed widthAt heightAt packedAt =>
        simp only at accepted
        split at accepted
        next => cases accepted
        next bounded =>
          have bounded : (GifCanvas.mk width height).isBounded = true := by simpa using bounded
          split at accepted
          next => cases accepted
          next offset table =>
            obtain ⟨stop, images⟩ := (boundedGifBlocks_start bounded table).mp accepted
            exact ⟨long, short, stop, 6, ⟨signed, rfl⟩, width, widthAt, height, heightAt,
              bounded, packed, packedAt, offset, table, images⟩
      next => cases accepted
    · rintro ⟨_, _, stop, _, ⟨_, rfl⟩, width, widthAt, height, heightAt, bounded, packed, packedAt,
        offset, table, images⟩
      simp [widthAt, heightAt, packedAt, bounded, table,
        (boundedGifBlocks_start bounded table).mpr ⟨stop, images⟩]

/-- One pixel, in one frame. -/
example : IsBoundedGif [0x47, 0x49, 0x46, 0x38, 0x39, 0x61, 1, 0, 1, 0, 0, 0, 0,
    0x2c, 0, 0, 0, 0, 1, 0, 1, 0, 0, 2, 0, 0x3b] :=
  (boundedInlineGif_iff _).mp (by decide +kernel)

/-- For all data the recognizer ends without a read outside of it, and accepts the data if and
only if a GIF within the bounds stands at its front. -/
theorem boundedInlineGif_exact (data : List UInt8) :
    ∃ accepted, boundedInlineGifChecked data = some accepted ∧
      (accepted = true ↔ IsBoundedGif data) :=
  ⟨boundedInlineGif data, boundedInlineGifChecked_eq data, boundedInlineGif_iff data⟩

end SignalPurple
