import SignalPurple.Core.Event

/-! # Received content

The part of a decrypted Signal envelope that the core reads: who sent it to whom and
when, and the message bodies it projects. Protocol-buffer fields that no modelled
function reads are left out, and so are the kinds of synchronization content other than
sent transcripts.
-/

namespace SignalPurple

structure Aci where
  uuid : String
  deriving DecidableEq

inductive ServiceId where
  | aci (aci : Aci)
  | pni (uuid : String)
  deriving DecidableEq

def ServiceId.serviceIdString : ServiceId → String
  | .aci account => account.uuid
  | .pni uuid => "PNI:" ++ uuid

/-- The 32-byte master key of a group. -/
structure GroupKey where
  bytes : List UInt8
  exact : bytes.length = 32
  deriving DecidableEq

/-- `<[u8; 32]>::try_from`. -/
def GroupKey.tryFrom (bytes : List UInt8) : Option GroupKey :=
  if exact : bytes.length = 32 then some ⟨bytes, exact⟩ else none

def GroupKey.sevens : GroupKey := ⟨List.replicate 32 7, by simp⟩

structure GroupContextV2 where
  masterKey : Option (List UInt8)
  revision : Option UInt32 := none
  deriving DecidableEq

/-- Formatting ranges of a body; only those that carry a mention are read. -/
inductive BodyRange where
  | mentionAci (aci : String)
  | other
  deriving DecidableEq

structure Preview where
  url : Option String
  title : Option String
  description : Option String
  deriving DecidableEq

structure Quote where
  text : Option String
  deriving DecidableEq

structure Reaction where
  emoji : Option String
  deriving DecidableEq

structure AttachmentPointer where
  /-- Where the ciphertext is stored and how it is decrypted. -/
  location : String
  size : Option UInt32 := none
  contentType : Option String := none
  fileName : Option String := none
  flags : Option UInt32 := none
  deriving DecidableEq

structure DataMessage where
  body : Option String := none
  bodyRanges : List BodyRange := []
  groupV2 : Option GroupContextV2 := none
  isDelete : Bool := false
  isViewOnce : Option Bool := none
  reaction : Option Reaction := none
  preview : List Preview := []
  quote : Option Quote := none
  attachments : List AttachmentPointer := []
  timestamp : Option UInt64 := none
  deriving DecidableEq

structure EditMessage where
  targetSentTimestamp : Option UInt64 := none
  dataMessage : Option DataMessage := none
  deriving DecidableEq

structure SentTranscript where
  message : Option DataMessage := none
  editMessage : Option EditMessage := none
  destinationServiceId : Option ServiceId := none
  timestamp : Option UInt64 := none
  deriving DecidableEq

structure TypingContent where
  timestamp : Option UInt64 := none
  action : Option Int := none
  groupId : Option (List UInt8) := none
  deriving DecidableEq

structure ReceiptContent where
  receiptType : Option Int := none
  timestamps : List UInt64 := []
  deriving DecidableEq

inductive ContentBody where
  | dataMessage (message : DataMessage)
  | editMessage (message : EditMessage)
  | synchronizeMessage (sent : Option SentTranscript)
  | typingMessage (message : TypingContent)
  | receiptMessage (message : ReceiptContent)
  | decryptionErrorMessage
  | other
  deriving DecidableEq

structure Metadata where
  sender : ServiceId
  destination : ServiceId
  /-- `client_timestamp.timestamp_millis()`. -/
  clientTimestamp : Int
  needsReceipt : Bool := false
  deriving DecidableEq

structure Content where
  metadata : Metadata
  body : ContentBody
  deriving DecidableEq

def contentHasGroupContext : ContentBody → Bool
  | .dataMessage message => message.groupV2.isSome
  | .editMessage { dataMessage := some message, .. } => message.groupV2.isSome
  | .synchronizeMessage (some sent) =>
      (sent.message <|> sent.editMessage.bind (·.dataMessage)).any (·.groupV2.isSome)
  | _ => false

def contentIsProjectable (body : ContentBody) (groupsAuthoritative : Bool) : Bool :=
  groupsAuthoritative || !contentHasGroupContext body

/-- What makes two copies of a message the same message for the projection. -/
structure ProjectionIdentity where
  sender : String
  destination : String
  timestampMs : Int
  deriving DecidableEq

def projectionIdentity (content : Content) : ProjectionIdentity where
  sender := content.metadata.sender.serviceIdString
  destination := content.metadata.destination.serviceIdString
  timestampMs := content.metadata.clientTimestamp

def directContent (clientTimestamp : Int) : Content where
  metadata :=
    { sender := .aci ⟨"11111111-1111-4111-8111-111111111111"⟩
      destination := .aci ⟨"22222222-2222-4222-8222-222222222222"⟩
      clientTimestamp }
  body := .dataMessage { body := some "hello" }

def groupContent (clientTimestamp : Int) : Content where
  metadata := (directContent clientTimestamp).metadata
  body := .dataMessage
    { body := some "hello", groupV2 := some { masterKey := some (List.replicate 32 7) } }

end SignalPurple
