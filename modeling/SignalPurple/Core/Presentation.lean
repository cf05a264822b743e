import SignalPurple.Core.Groups
import SignalPurple.Core.MessageText

/-! # Presentation of received content

What `handle_content` emits for a content and what it says about its projection. How
reads of the store, downloads and conversions end is an input.
-/

namespace SignalPurple

def maxAttachmentSizeBytes : Nat := 50 * 1024 * 1024
def maxAttachmentDownloadsPerMessage : Nat := 32

/-! ## The group of a message -/

inductive ProjectionGroup where
  | active (group : Group)
  | complete
  | retry

/-- A group that is being left, or was left, needs no look at the store. -/
def departedProjectionGroup (state : GroupDepartureState) : Option ProjectionGroup :=
  match departureProjectionDisposition state with
  | some .retry => some .retry
  | some .complete => some .complete
  | some .awaitingAck | none => none

section Presentation

variable (account : Account)

/-- The departures are looked at before and after the read of the group. -/
def groupForProjection (departed departedAfter : DepartedGroups)
    (read : Except StoreError (Option Group)) (key : GroupKey) :
    Except String ProjectionGroup :=
  let identifier := account.groupIdentifier key
  match departedProjectionGroup (departed.departureState identifier) with
  | some group => .ok group
  | none =>
      match read with
      | .error error => .error ("Could not read Signal group membership: " ++ error.text)
      | .ok group =>
          match departedProjectionGroup (departedAfter.departureState identifier) with
          | some group => .ok group
          | none =>
              match group.filter (groupContainsLocalAci · account.localAci) with
              | some group => .ok (.active group)
              | none => .ok .complete

/-! ## Attachments -/

structure DataMessageProjection where
  message : DataMessage
  peer : String
  outgoing : Bool
  timestamp : UInt64
  deliveryId : DeliveryId

/-- How the calls of `emit_data_message` end. -/
structure PresentationOutcomes where
  departedAfter : DepartedGroups
  group : Except StoreError (Option Group)
  /-- The download of the attachment with this index. -/
  download : Nat → Except String Bytes
  /-- The conversion of the attachment with this index. -/
  transcode : Nat → Option Bytes

def truncateAttachmentToSenderSize (attachment : AttachmentPointer) (data : Bytes) : Bytes :=
  match attachment.size with
  | none => data
  | some size => data.truncate size.toNat

def downloadError (reason : String) : List Event :=
  [Event.error ("Could not download a Signal attachment: " ++ reason) false]

def downloadAttachment (index : Nat) (attachment : AttachmentPointer)
    (result : Except String Bytes) : List Event × List DownloadedAttachment :=
  if maxAttachmentSizeBytes < (attachment.size.getD 0).toNat then
    (downloadError "attachment exceeds 50 MiB limit", [])
  else
    match result with
    | .error error => (downloadError error, [])
    | .ok received =>
        let data := truncateAttachmentToSenderSize attachment received
        if maxAttachmentSizeBytes < data.length then
          (downloadError "attachment exceeds 50 MiB limit", [])
        else if data.length = 0 then (downloadError "decrypted attachment was empty", [])
        else ([], [DownloadedAttachment.new index attachment data])

def downloadAttachments (download : Nat → Except String Bytes) :
    List (AttachmentPointer × Nat) → List Event × List DownloadedAttachment
  | [] => ([], [])
  | (attachment, index) :: later =>
      let first := downloadAttachment index attachment (download index)
      let rest := downloadAttachments download later
      (first.1 ++ rest.1, first.2 ++ rest.2)

/-- Attachments of an own message are not downloaded. -/
def downloadIncoming (outgoing : Bool) (download : Nat → Except String Bytes)
    (attachments : List AttachmentPointer) : List Event × List DownloadedAttachment :=
  if outgoing then ([], [])
  else
    let excess :=
      if maxAttachmentDownloadsPerMessage < attachments.length then
        [Event.error ("Ignored " ++
          toString (attachments.length - maxAttachmentDownloadsPerMessage) ++
          " Signal attachments beyond the per-message limit of 32") false]
      else []
    let downloads := downloadAttachments download
      (attachments.zipIdx.take maxAttachmentDownloadsPerMessage)
    (excess ++ downloads.1, downloads.2)

theorem downloadAttachment_cases (index : Nat) (attachment : AttachmentPointer)
    (result : Except String Bytes) :
    (∃ reason, downloadAttachment index attachment result = (downloadError reason, [])) ∨
      ∃ received, result = .ok received ∧
        (truncateAttachmentToSenderSize attachment received).length ≠ 0 ∧
        (truncateAttachmentToSenderSize attachment received).length ≤ maxAttachmentSizeBytes ∧
        downloadAttachment index attachment result =
          ([], [DownloadedAttachment.new index attachment
            (truncateAttachmentToSenderSize attachment received)]) := by
  unfold downloadAttachment
  split
  · exact .inl ⟨_, rfl⟩
  · split
    next => exact .inl ⟨_, rfl⟩
    next received =>
      simp only
      split
      next => exact .inl ⟨_, rfl⟩
      next small =>
        split
        next => exact .inl ⟨_, rfl⟩
        next present =>
          exact .inr ⟨received, rfl, present, Nat.le_of_not_lt small, rfl⟩

theorem kind_of_downloadAttachments {download : Nat → Except String Bytes}
    (pointers : List (AttachmentPointer × Nat)) :
    ∀ event ∈ (downloadAttachments download pointers).1, event.kind = .error := by
  induction pointers with
  | nil => simp [downloadAttachments]
  | cons pointer later induction =>
      refine List.forall_mem_append.mpr ⟨?_, induction⟩
      rcases downloadAttachment_cases pointer.2 pointer.1 (download pointer.2) with
        ⟨reason, failed⟩ | ⟨received, _, _, _, kept⟩
      · simp [failed, downloadError, Event.error]
      · simp [kept]

theorem kind_of_downloadIncoming {outgoing : Bool} {download : Nat → Except String Bytes}
    {pointers : List AttachmentPointer} :
    ∀ event ∈ (downloadIncoming outgoing download pointers).1, event.kind = .error := by
  unfold downloadIncoming
  split
  · simp
  · refine List.forall_mem_append.mpr ⟨?_, kind_of_downloadAttachments _⟩
    split
    · simp [Event.error]
    · simp

/-- At most two conversions are tried for a message. -/
def transcodeAttachments (transcode : Nat → Option Bytes) :
    Nat → List DownloadedAttachment → List DownloadedAttachment
  | _, [] => []
  | transcodes, attachment :: later =>
      if maxSignalGifTranscodesPerMessage ≤ transcodes then attachment :: later
      else if attachment.signalGifFilename.isNone then
        attachment :: transcodeAttachments transcode transcodes later
      else
        let converted :=
          match transcode attachment.attachmentIndex with
          | some gif => attachment.applySignalGif gif
          | none => attachment
        converted :: transcodeAttachments transcode (transcodes + 1) later

/-- The attachments that the adapter shows in the conversation. -/
def inlineAttachmentIndexes (outgoing : Bool) (downloaded : List DownloadedAttachment) :
    List Nat :=
  (downloaded.filter fun attachment =>
    shouldInlineImage outgoing attachment.contentType (some attachment.data.toList)).map
      (·.attachmentIndex)

/-! ## Events of a data message -/

/-- The event with the text; it carries the delivery id if no attachment follows. -/
def textEvent (projection : DataMessageProjection) (group : Option (GroupKey × Group))
    (requestId : DeliveryId) (text : String) : Event :=
  let flags := if projection.outgoing then flagOutgoing else 0
  match group with
  | some (key, group) =>
      { kind := .groupMessage
        requestId
        flags
        peerId := some (groupMessagePeer projection.outgoing projection.peer account.localAci)
        chatId := some (account.groupIdentifier key)
        title := some group.title
        text := some text
        timestampMs := projection.timestamp }
  | none =>
      { kind := .message
        requestId
        flags
        peerId := some projection.peer
        text := some text
        timestampMs := projection.timestamp }

/-- The events of the attachments; the last one carries the delivery id. -/
def attachmentEvents (projection : DataMessageProjection) (group : Option (GroupKey × Group)) :
    List DownloadedAttachment → List Event
  | [] => []
  | attachment :: later =>
      { kind := .attachment
        requestId := if later.isEmpty then projection.deliveryId else 0
        peerId := some projection.peer
        chatId := group.map fun entry => account.groupIdentifier entry.1
        title := some attachment.filename
        text := attachment.contentType
        data := attachment.data
        timestampMs := projection.timestamp } :: attachmentEvents projection group later

/-- `emit_data_message` once the group of the message, if it has one, is known. -/
def presentDataMessage (projection : DataMessageProjection) (group : Option (GroupKey × Group))
    (outcomes : PresentationOutcomes) : List Event :=
  let attachments := regularMessageAttachments projection.message
  let downloads := downloadIncoming projection.outgoing outcomes.download attachments
  let downloaded := transcodeAttachments outcomes.transcode 0 downloads.2
  let inline := inlineAttachmentIndexes projection.outgoing downloaded
  let text := projectedDataMessageText (dataMessageText projection.message)
    (attachments.zipIdx.map fun entry =>
      (some (attachmentDisplayName entry.1), decide (entry.2 ∈ inline)))
  let requestId := if downloaded.isEmpty then projection.deliveryId else 0
  downloads.1 ++ (text.map (textEvent account projection group requestId)).toList ++
    attachmentEvents account projection group downloaded

def emitDataMessage (departed : DepartedGroups) (projection : DataMessageProjection)
    (outcomes : PresentationOutcomes) : List Event × ProjectionDisposition :=
  let isEmpty := dataMessageText projection.message = "" ∧
    regularMessageAttachments projection.message = []
  match groupMessageTarget projection.message with
  | .malformed =>
      ([Event.error
        "Ignored a Signal group message with a missing or malformed group master key" false],
        .complete)
  | .direct =>
      if isEmpty then ([], .complete)
      else (presentDataMessage account projection none outcomes, .awaitingAck)
  | .group key =>
      if isEmpty then ([], .complete)
      else
        match groupForProjection account departed outcomes.departedAfter outcomes.group key with
        | .ok (.active group) =>
            (presentDataMessage account projection (some (key, group)) outcomes, .awaitingAck)
        | .ok .complete => ([], .complete)
        | .ok .retry => ([], .retry)
        | .error error => ([Event.error error false], .retry)

/-! ## Contents -/

def contentTimestamp (content : Content) : UInt64 :=
  let received := UInt64.ofInt content.metadata.clientTimestamp
  match content.body with
  | .dataMessage message => message.timestamp.getD received
  | .editMessage message => message.targetSentTimestamp.getD received
  | .synchronizeMessage (some sent) => sent.timestamp.getD received
  | _ => received

/-- The route of a message that is not a transcript of an own one. -/
def bareProjection (content : Content) (message : DataMessage) (deliveryId : DeliveryId) :
    DataMessageProjection :=
  let route := bareDataMessageRoute content.metadata.sender content.metadata.destination
    account.localAci
  { message, peer := route.peer, outgoing := route.outgoing
    timestamp := contentTimestamp content, deliveryId }

def transcriptProjection (content : Content) (sent : SentTranscript) (message : DataMessage)
    (deliveryId : DeliveryId) : DataMessageProjection where
  message
  peer := (sent.destinationServiceId.getD content.metadata.sender).serviceIdString
  outgoing := true
  timestamp := contentTimestamp content
  deliveryId

/-- `handle_content`; `receiptDiscarded` says whether the queue of delivery receipts is full. -/
def handleContent (departed : DepartedGroups) (content : Content) (deliveryId : DeliveryId)
    (receiptDiscarded : Bool) (outcomes : PresentationOutcomes) :
    List Event × ProjectionDisposition :=
  let sender := content.metadata.sender.serviceIdString
  let timestamp := contentTimestamp content
  match content.body with
  | .dataMessage message =>
      let emitted := emitDataMessage account departed
        (bareProjection account content message deliveryId) outcomes
      let backlog :=
        if content.metadata.needsReceipt && receiptDiscarded then
          [Event.transientError
            "Signal delivery-receipt backlog limit reached; excess receipts were discarded"]
        else []
      (emitted.1 ++ backlog, emitted.2)
  | .editMessage { dataMessage := some message, .. } =>
      emitDataMessage account departed (bareProjection account content message deliveryId)
        outcomes
  | .synchronizeMessage (some sent) =>
      match sent.message <|> sent.editMessage.bind (·.dataMessage) with
      | some message =>
          emitDataMessage account departed
            (transcriptProjection content sent message deliveryId) outcomes
      | none => ([], .complete)
  | .typingMessage message =>
      if message.groupId.isSome then ([], .complete)
      else
        ([{ kind := .typing
            peerId := some sender
            timestampMs := message.timestamp.getD timestamp
            value := if message.action = some 0 then 1 else 0 }], .complete)
  | .receiptMessage message =>
      ([{ kind := .receipt
          peerId := some sender
          timestampMs := message.timestamps.head?.getD timestamp
          value := message.receiptType.getD 0 }], .complete)
  | .decryptionErrorMessage =>
      ([Event.error ("A message from " ++ sender ++ " could not be decrypted") false], .complete)
  | _ => ([], .complete)

end Presentation

end SignalPurple
