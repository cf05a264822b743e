import SignalPurple.Core.Content
import SignalPurple.Core.Text

/-! # Media of a message

What `media.rs` recognizes in the bytes of an attachment, and the names it gives to
attachments. The conversion of videos runs in another process and is not modelled.
-/

namespace SignalPurple

def maxInlineMediaBytes : Nat := 8 * 1024 * 1024
def maxInlineGifEdge : Nat := 8192
def maxInlineGifPixels : Nat := 16 * 1000 * 1000
def maxInlineGifPixelFrames : Nat := 8 * 1000 * 1000
def maxSignalGifTranscodesPerMessage : Nat := 2

/-- `attachment_pointer::Flags::Gif`. -/
def attachmentFlagGif : UInt32 := 8

def startsWith (data signature : List UInt8) : Bool := signature.isPrefixOf data

def jpegSignature : List UInt8 := [0xff, 0xd8, 0xff]
def pngSignature : List UInt8 := [0x89, 0x50, 0x4e, 0x47, 0x0d, 0x0a, 0x1a, 0x0a]
def gif87aSignature : List UInt8 := [0x47, 0x49, 0x46, 0x38, 0x37, 0x61]
def gif89aSignature : List UInt8 := [0x47, 0x49, 0x46, 0x38, 0x39, 0x61]

def isGif (data : List UInt8) : Bool :=
  startsWith data gif87aSignature || startsWith data gif89aSignature

def inlineImageMatches (contentType : Option String) (data : List UInt8) : Bool :=
  if maxInlineMediaBytes < data.length then false
  else
    match contentType with
    | none => false
    | some contentType =>
        if eqIgnoreAsciiCase contentType "image/jpeg" then startsWith data jpegSignature
        else if eqIgnoreAsciiCase contentType "image/png" then startsWith data pngSignature
        else if eqIgnoreAsciiCase contentType "image/gif" then isGif data
        else false

def shouldInlineImage (outgoing : Bool) (contentType : Option String)
    (data : Option (List UInt8)) : Bool :=
  !outgoing && data.any (inlineImageMatches contentType)

/-! ## Bounded GIFs -/

def gifU16 (data : List UInt8) (offset : Nat) : Option Nat :=
  match data[offset]?, data[offset + 1]? with
  | some low, some high => some (low.toNat + 256 * high.toNat)
  | _, _ => none

def advanceGifOffset (offset amount size : Nat) : Option Nat :=
  if size < offset ∨ size - offset < amount then none else some (offset + amount)

/-- Each round moves the offset, so the length of the data is fuel enough. -/
def skipGifSubBlocks (data : List UInt8) : Nat → Nat → Option Nat
  | 0, _ => none
  | fuel + 1, offset =>
      match data[offset]? with
      | none => none
      | some blockSize =>
          if blockSize = 0 then some (offset + 1)
          else
            (advanceGifOffset (offset + 1) blockSize.toNat data.length).bind
              (skipGifSubBlocks data fuel)

def colorTableSize (packed : UInt8) : Nat :=
  if packed &&& 0x80 = 0 then 0 else 3 * 2 ^ ((packed &&& 0x07).toNat + 1)

structure GifCanvas where
  width : Nat
  height : Nat
  deriving DecidableEq

def GifCanvas.pixels (canvas : GifCanvas) : Nat := canvas.width * canvas.height

/-- The descriptor of a frame lies inside the canvas and the frame is within budget. -/
def gifFrameFits (data : List UInt8) (canvas : GifCanvas) (offset frames : Nat) : Bool :=
  match gifU16 data offset, gifU16 data (offset + 2), gifU16 data (offset + 4),
    gifU16 data (offset + 6) with
  | some left, some top, some width, some height =>
      decide (width ≠ 0 ∧ height ≠ 0 ∧ left + width ≤ canvas.width ∧
        top + height ≤ canvas.height ∧ frames ≤ maxInlineGifPixelFrames / canvas.pixels)
  | _, _, _, _ => false

/-- One image block, from after its marker to after its data. -/
def skipGifImage (data : List UInt8) (canvas : GifCanvas) (offset frames : Nat) : Option Nat :=
  if data.length < offset ∨ data.length - offset < 9 then none
  else if !gifFrameFits data canvas offset frames then none
  else do
    let imagePacked ← data[offset + 8]?
    let codes ← advanceGifOffset (offset + 9) (colorTableSize imagePacked) data.length
    let codeSize ← data[codes]?
    if 2 ≤ codeSize ∧ codeSize ≤ 8 then skipGifSubBlocks data data.length (codes + 1) else none

/-- The blocks after the global colour table, up to the trailer. -/
def boundedGifBlocks (data : List UInt8) (canvas : GifCanvas) : Nat → Nat → Nat → Bool
  | 0, _, _ => false
  | fuel + 1, offset, frames =>
      match data[offset]? with
      | none => false
      | some marker =>
          if marker = 0x3b then decide (0 < frames)
          else if marker = 0x21 then
            match (advanceGifOffset (offset + 1) 1 data.length).bind
              (skipGifSubBlocks data data.length) with
            | none => false
            | some next => boundedGifBlocks data canvas fuel next frames
          else if marker = 0x2c then
            match skipGifImage data canvas (offset + 1) (frames + 1) with
            | none => false
            | some next => boundedGifBlocks data canvas fuel next (frames + 1)
          else false

def GifCanvas.isBounded (canvas : GifCanvas) : Bool :=
  decide (canvas.width ≠ 0 ∧ canvas.height ≠ 0 ∧ canvas.width ≤ maxInlineGifEdge ∧
    canvas.height ≤ maxInlineGifEdge ∧ canvas.pixels ≤ maxInlineGifPixels)

def boundedInlineGif (data : List UInt8) : Bool :=
  if data.length < 13 ∨ maxInlineMediaBytes < data.length ∨ isGif data = false then false
  else
    match gifU16 data 6, gifU16 data 8, data[10]? with
    | some width, some height, some packed =>
        let canvas : GifCanvas := { width, height }
        if !canvas.isBounded then false
        else
          match advanceGifOffset 13 (colorTableSize packed) data.length with
          | none => false
          | some offset => boundedGifBlocks data canvas data.length offset 0
    | _, _, _ => false

/-! ## Videos sent as animations -/

def u32FromBigEndian : List UInt8 → Nat
  | [a, b, c, d] => ((a.toNat * 256 + b.toNat) * 256 + c.toNat) * 256 + d.toNat
  | _ => 0

def mp4FileTypeBoxMatches (data : List UInt8) : Bool :=
  let boxSize := u32FromBigEndian (data.take 4)
  decide (16 ≤ data.length) && (data.drop 4).take 4 == [0x66, 0x74, 0x79, 0x70] &&
    decide (16 ≤ boxSize ∧ boxSize ≤ data.length)

def AttachmentPointer.isGif (attachment : AttachmentPointer) : Bool :=
  attachment.flags.getD 0 &&& attachmentFlagGif != 0

def signalGifVideoMatches (attachment : AttachmentPointer) (data : List UInt8) : Bool :=
  decide (data.length ≤ maxInlineMediaBytes) &&
    attachment.contentType.any (eqIgnoreAsciiCase · "video/mp4") && attachment.isGif &&
    mp4FileTypeBoxMatches data

/-! ## Names -/

def signalGifInlineFilename (attachment : AttachmentPointer) : String :=
  match nonempty attachment.fileName with
  | none => "signal-animation.gif"
  | some filename =>
      let basename := lastComponent (fun separator => separator = '/' ∨ separator = '\\')
        filename.toList
      if basename = [] ∨ basename = ['.'] ∨ basename = ['.', '.'] then "signal-animation.gif"
      else
        let stem := ((beforeLast (· = '.') basename).filter (· ≠ [])).getD basename
        String.ofList stem ++ ".gif"

def attachmentDisplayName (attachment : AttachmentPointer) : String :=
  match nonempty attachment.fileName with
  | some fileName => fileName
  | none =>
      let isType (mimeType : String) : Bool :=
        attachment.contentType.any (eqIgnoreAsciiCase · mimeType)
      if attachment.isGif then
        if isType "image/gif" then "signal-animation.gif"
        else if isType "video/mp4" then "signal-animation.mp4"
        else "signal-animation"
      else if isType "image/jpeg" then "signal-image.jpg"
      else if isType "image/png" then "signal-image.png"
      else if isType "image/gif" then "signal-animation.gif"
      else if isType "video/mp4" then "signal-video.mp4"
      else "signal-attachment"

/-! ## Downloads -/

structure DownloadedAttachment where
  attachmentIndex : Nat
  filename : String
  contentType : Option String
  data : Bytes
  signalGifFilename : Option String
  deriving DecidableEq

namespace DownloadedAttachment

def new (attachmentIndex : Nat) (attachment : AttachmentPointer) (data : Bytes) :
    DownloadedAttachment where
  attachmentIndex
  filename := attachmentDisplayName attachment
  contentType := attachment.contentType
  data
  signalGifFilename :=
    if signalGifVideoMatches attachment data.toList then
      some (signalGifInlineFilename attachment)
    else none

/-- The converted animation replaces the video if it is a GIF within bounds. -/
def applySignalGif (attachment : DownloadedAttachment) (gif : Bytes) : DownloadedAttachment :=
  match attachment.signalGifFilename with
  | none => attachment
  | some filename =>
      if boundedInlineGif gif.toList then
        { attachment with
          filename, signalGifFilename := none, contentType := some "image/gif", data := gif }
      else attachment

end DownloadedAttachment

end SignalPurple
