import SignalPurple.Adapter.Poll
import SignalPurple.Core.Presentation

/-! # The adapter accepts what the core presents

The poll loop acknowledges every final event, so it rests on the core never presenting a
message that the adapter refuses. Here that is proved of every event of `handle_content`,
given that account and group identifiers are not empty.
-/

namespace SignalPurple

/-! ## Payloads -/

def DownloadedAttachment.Fits (attachment : DownloadedAttachment) : Prop :=
  0 < attachment.data.length ∧ attachment.data.length ≤ maxAttachmentSizeBytes

theorem fits_of_downloadAttachments {download : Nat → Except String Bytes}
    (pointers : List (AttachmentPointer × Nat)) :
    ∀ attachment ∈ (downloadAttachments download pointers).2, attachment.Fits := by
  induction pointers with
  | nil => simp [downloadAttachments]
  | cons pointer later induction =>
      refine List.forall_mem_append.mpr ⟨?_, induction⟩
      rcases downloadAttachment_cases pointer.2 pointer.1 (download pointer.2) with
        ⟨reason, failed⟩ | ⟨received, _, present, small, kept⟩
      · simp [failed]
      · simpa [kept] using ⟨Nat.pos_of_ne_zero present, small⟩

theorem fits_of_downloadIncoming {outgoing : Bool} {download : Nat → Except String Bytes}
    {pointers : List AttachmentPointer} :
    ∀ attachment ∈ (downloadIncoming outgoing download pointers).2, attachment.Fits := by
  unfold downloadIncoming
  split
  · simp
  · exact fits_of_downloadAttachments _

theorem length_of_boundedInlineGif {data : List UInt8} (bounded : boundedInlineGif data = true) :
    13 ≤ data.length ∧ data.length ≤ maxInlineMediaBytes := by
  unfold boundedInlineGif at bounded
  split at bounded
  next => cases bounded
  next inside =>
    omega

theorem DownloadedAttachment.Fits.applySignalGif {attachment : DownloadedAttachment}
    (fits : attachment.Fits) (gif : Bytes) : (attachment.applySignalGif gif).Fits := by
  unfold DownloadedAttachment.applySignalGif
  split
  · exact fits
  · split
    next bounded =>
      have within := length_of_boundedInlineGif bounded
      have smaller : maxInlineMediaBytes ≤ maxAttachmentSizeBytes := by decide
      simp only [DownloadedAttachment.Fits, Bytes.length]
      omega
    next => exact fits

theorem fits_of_transcodeAttachments {transcode : Nat → Option Bytes} (transcodes : Nat)
    {attachments : List DownloadedAttachment}
    (fit : ∀ attachment ∈ attachments, attachment.Fits) :
    ∀ attachment ∈ transcodeAttachments transcode transcodes attachments, attachment.Fits := by
  induction attachments generalizing transcodes with
  | nil => simp [transcodeAttachments]
  | cons head later induction =>
      have first := fit head List.mem_cons_self
      have rest : ∀ attachment ∈ later, attachment.Fits := fun attachment member =>
        fit attachment (List.mem_cons_of_mem _ member)
      unfold transcodeAttachments
      split
      · exact fit
      · split
        · exact List.forall_mem_cons.mpr ⟨first, induction transcodes rest⟩
        · refine List.forall_mem_cons.mpr ⟨?_, induction (transcodes + 1) rest⟩
          split
          · exact first.applySignalGif _
          · exact first

/-! ## What a content presents -/

/-- Identifiers that the libraries promise: those of accounts and groups are not empty. -/
structure Account.Named (account : Account) : Prop where
  localAci : (ServiceId.aci account.localAci).serviceIdString ≠ ""
  groups : ∀ key, account.groupIdentifier key ≠ ""

structure Content.Named (content : Content) : Prop where
  sender : content.metadata.sender.serviceIdString ≠ ""
  destination : content.metadata.destination.serviceIdString ≠ ""
  transcript : ∀ sent, content.body = .synchronizeMessage (some sent) →
    ∀ destination ∈ sent.destinationServiceId, destination.serviceIdString ≠ ""

/-- The events that stand for a content with this delivery id. Everything known about
them is read off here. -/
inductive Presents (account : Account) (deliveryId : DeliveryId) : Event → Prop
  | notice {event} (other : isProjectionKind event.kind.code = false) :
      Presents account deliveryId event
  | text {projection group requestId} (peer : projection.peer ≠ "")
      (request : requestId = 0 ∨ requestId = deliveryId) (text : String) :
      Presents account deliveryId (textEvent account projection group requestId text)
  | attachment {event} (kind : event.kind = .attachment)
      (request : event.requestId = 0 ∨ event.requestId = deliveryId)
      (peer : isBlank event.peerId = false)
      (chat : ∀ identifier ∈ event.chatId, ∃ key, identifier = account.groupIdentifier key)
      (nonempty : 0 < event.data.length)
      (small : event.data.length ≤ maxAttachmentSizeBytes) :
      Presents account deliveryId event

section Present

variable {account : Account} {deliveryId : DeliveryId} {projection : DataMessageProjection}
  {group : Option (GroupKey × Group)} {outcomes : PresentationOutcomes}

theorem presents_error (message : String) (fatal : Bool) :
    Presents account deliveryId (Event.error message fatal) :=
  Presents.notice rfl

theorem presents_attachmentEvents (peer : projection.peer ≠ "")
    {attachments : List DownloadedAttachment}
    (fit : ∀ attachment ∈ attachments, attachment.Fits) :
    ∀ event ∈ attachmentEvents account projection group attachments,
      Presents account projection.deliveryId event := by
  induction attachments with
  | nil => simp [attachmentEvents]
  | cons head later induction =>
      have first := fit head List.mem_cons_self
      refine List.forall_mem_cons.mpr ⟨?_, ?_⟩
      · apply Presents.attachment rfl
        · cases later with
          | nil => exact Or.inr rfl
          | cons next rest => exact Or.inl rfl
        · simp [isBlank, peer]
        · intro identifier known
          rcases Option.map_eq_some_iff.mp known with ⟨entry, _, rfl⟩
          exact ⟨entry.1, rfl⟩
        · exact first.1
        · exact first.2
      · exact induction fun attachment member =>
          fit attachment (List.mem_cons_of_mem _ member)

theorem presents_downloadError (reason : String) :
    ∀ event ∈ downloadError reason, Presents account deliveryId event := by
  simpa [downloadError] using presents_error _ _

theorem presents_downloadAttachment {index : Nat} {pointer : AttachmentPointer}
    {result : Except String Bytes} :
    ∀ event ∈ (downloadAttachment index pointer result).1,
      Presents account deliveryId event := by
  unfold downloadAttachment
  split
  · exact presents_downloadError _
  · split
    · exact presents_downloadError _
    · simp only
      split
      · exact presents_downloadError _
      · split
        · exact presents_downloadError _
        · simp

theorem presents_downloadAttachments {download : Nat → Except String Bytes}
    (pointers : List (AttachmentPointer × Nat)) :
    ∀ event ∈ (downloadAttachments download pointers).1,
      Presents account deliveryId event := by
  induction pointers with
  | nil => simp [downloadAttachments]
  | cons pointer later induction =>
      exact List.forall_mem_append.mpr ⟨presents_downloadAttachment, induction⟩

theorem presents_downloadIncoming {outgoing : Bool} {download : Nat → Except String Bytes}
    {pointers : List AttachmentPointer} :
    ∀ event ∈ (downloadIncoming outgoing download pointers).1,
      Presents account deliveryId event := by
  unfold downloadIncoming
  split
  · simp
  · refine List.forall_mem_append.mpr ⟨?_, presents_downloadAttachments _⟩
    split
    · simpa using presents_error _ _
    · simp

theorem presents_presentDataMessage (peer : projection.peer ≠ "") :
    ∀ event ∈ presentDataMessage account projection group outcomes,
      Presents account projection.deliveryId event := by
  simp only [presentDataMessage, List.forall_mem_append]
  refine ⟨⟨presents_downloadIncoming, ?_⟩, ?_⟩
  · intro event member
    simp only [Option.mem_toList, Option.map_eq_some_iff] at member
    rcases member with ⟨text, _, rfl⟩
    apply Presents.text peer
    split
    · exact Or.inr rfl
    · exact Or.inl rfl
  · apply presents_attachmentEvents peer
    exact fits_of_transcodeAttachments 0 fits_of_downloadIncoming

theorem presents_emitDataMessage (peer : projection.peer ≠ "") (departed : DepartedGroups) :
    ∀ event ∈ (emitDataMessage account departed projection outcomes).1,
      Presents account projection.deliveryId event := by
  simp only [emitDataMessage]
  split
  · simpa using presents_error _ _
  · split
    · simp
    · exact presents_presentDataMessage peer
  · split
    · simp
    · split
      · exact presents_presentDataMessage peer
      · simp
      · simp
      · simpa using presents_error _ _

end Present

section Handle

variable {account : Account} {content : Content}

theorem peer_bareProjection (named : content.Named) (message : DataMessage)
    (deliveryId : DeliveryId) : (bareProjection account content message deliveryId).peer ≠ "" := by
  simp only [bareProjection, bareDataMessageRoute]
  split
  · exact named.destination
  · exact named.sender

theorem peer_transcriptProjection {sent : SentTranscript} (named : content.Named)
    (body : content.body = .synchronizeMessage (some sent)) (message : DataMessage)
    (deliveryId : DeliveryId) :
    (transcriptProjection content sent message deliveryId).peer ≠ "" := by
  simp only [transcriptProjection]
  cases destination : sent.destinationServiceId with
  | none => exact named.sender
  | some serviceId => exact named.transcript sent body serviceId destination

/-- However its reads, downloads and conversions end, a handled content presents nothing
else. -/
theorem presents_handleContent (named : content.Named) (departed : DepartedGroups)
    (deliveryId : DeliveryId) (receiptDiscarded : Bool) (outcomes : PresentationOutcomes) :
    ∀ event ∈ (handleContent account departed content deliveryId receiptDiscarded outcomes).1,
      Presents account deliveryId event := by
  simp only [handleContent]
  split
  next =>
    refine List.forall_mem_append.mpr
      ⟨presents_emitDataMessage (peer_bareProjection named _ _) departed, ?_⟩
    split
    · simpa using Presents.notice rfl
    · simp
  next => exact presents_emitDataMessage (peer_bareProjection named _ _) departed
  next sent body =>
    split
    · exact presents_emitDataMessage (peer_transcriptProjection named body _ _) departed
    · simp
  next =>
    split
    · simp
    · simpa using Presents.notice rfl
  next => simpa using Presents.notice rfl
  next => simpa using presents_error _ _
  next => simp

end Handle

/-! ## The adapter accepts it -/

theorem isBlank_map_cString (text : Option String) :
    isBlank (text.map SignalEvent.cString) = isBlank text := by
  cases text with
  | none => rfl
  | some text =>
      simp only [Option.map_some, isBlank]
      rw [Bool.eq_iff_iff, beq_iff_eq, beq_iff_eq]
      exact SignalEvent.cString_eq_empty

theorem wellFormed_of_other {event : SignalEvent} (other : isProjectionKind event.kind = false) :
    isMalformed event = false := by
  cases malformed : isMalformed event with
  | false => rfl
  | true =>
      have projection := isProjectionKind_of_malformed malformed
      rw [other] at projection
      cases projection

section Accept

variable {account : Account}

theorem wellFormed_textEvent {projection : DataMessageProjection} (named : account.Named)
    (peer : projection.peer ≠ "") (group : Option (GroupKey × Group)) (requestId : DeliveryId)
    (text : String) :
    isMalformed (SignalEvent.ofEvent (textEvent account projection group requestId text)) =
      false := by
  simp only [isMalformed, SignalEvent.ofEvent, EventKind.ofCode_code, isBlank_map_cString]
  cases group with
  | none => simp [textEvent, isBlank, peer]
  | some entry =>
      have sender :
          groupMessagePeer projection.outgoing projection.peer account.localAci ≠ "" := by
        unfold groupMessagePeer
        split
        · exact named.localAci
        · exact peer
      simp [textEvent, isBlank, sender, named.groups entry.1]

/-- The size limits of the core and of the adapter are the same. -/
theorem wellFormed_attachment {event : Event} (attachment : event.kind = .attachment)
    (peer : isBlank event.peerId = false) (chat : event.chatId ≠ some "")
    (nonempty : 0 < event.data.length) (small : event.data.length ≤ maxAttachmentSizeBytes) :
    isMalformed (SignalEvent.ofEvent event) = false := by
  have present : event.data.length ≠ 0 := Nat.ne_of_gt nonempty
  have sameLimit : maxAttachmentDeliveryBytes = maxAttachmentSizeBytes := rfl
  have named : (event.chatId.map SignalEvent.cString == some "") = false := by
    cases known : event.chatId with
    | none => rfl
    | some identifier =>
        have nonblank : identifier ≠ "" := by simpa [known] using chat
        simpa [SignalEvent.cString_eq_empty] using nonblank
  simp only [isMalformed, SignalEvent.ofEvent, EventKind.ofCode_code, attachment,
    attachmentIsMalformed, isBlank_map_cString, peer, named, present, if_false, sameLimit]
  simpa [present] using small

theorem Presents.wellFormed {deliveryId : DeliveryId} {event : Event} (named : account.Named)
    (presents : Presents account deliveryId event) :
    isMalformed (SignalEvent.ofEvent event) = false := by
  cases presents with
  | notice other => exact wellFormed_of_other other
  | text peer request text => exact wellFormed_textEvent named peer _ _ text
  | attachment kind request peer chat nonempty small =>
      refine wellFormed_attachment kind peer ?_ nonempty small
      intro nameless
      rcases chat "" nameless with ⟨key, same⟩
      exact named.groups key same.symm

theorem Presents.requestId_eq {deliveryId : DeliveryId} {event : Event}
    (presents : Presents account deliveryId event)
    (acknowledged : isAcknowledged (SignalEvent.ofEvent event) = true) :
    event.requestId = deliveryId := by
  rcases isAcknowledged_iff.mp acknowledged with ⟨nonzero, projection⟩
  cases presents with
  | notice other =>
      rw [SignalEvent.ofEvent, other] at projection
      cases projection
  | @text message group requestId peer request text =>
      have carried : (textEvent account message group requestId text).requestId = requestId := by
        cases group <;> rfl
      rw [carried]
      apply request.resolve_left
      rw [← carried]
      exact nonzero
  | attachment kind request => exact request.resolve_left nonzero

end Accept

/-! ## The core and the adapter together -/

def PollsPresentedEvents (account : Account) (rounds : Nat → PollRound) : Prop :=
  ∀ index event, (rounds index).poll = .ready (some event) → isAcknowledged event = true →
    ∃ deliveryId presented, Presents account deliveryId presented ∧
      event = SignalEvent.ofEvent presented

theorem polled_of_dispatchedEvents {rounds : Nat → PollRound} {event : SignalEvent}
    {remaining index : Nat} (member : event ∈ dispatchedEvents rounds remaining index) :
    ∃ round, (rounds round).poll = .ready (some event) := by
  induction remaining generalizing index with
  | zero => cases member
  | succ remaining induction =>
      rw [dispatchedEvents] at member
      split at member
      next => cases member
      next polled =>
        rcases List.mem_cons.mp member with rfl | later
        · exact ⟨index, (compatibleEvent_eq_some polled).1⟩
        · split at later
          · cases later
          · exact induction later

/-- With this core behind it, the adapter acknowledges only messages that it accepted. -/
theorem pollBackend_acknowledges_only_presented {account : Account} (named : account.Named)
    (handlers : Handlers) (notifierFailed : Bool) {rounds : Nat → PollRound}
    (presented : PollsPresentedEvents account rounds) (state : AdapterState) :
    AcknowledgesOnlyAccepted (pollBackend handlers notifierFailed rounds state) := by
  apply acknowledgesOnlyAccepted_of_wellFormed
  intro event member acknowledged
  rcases polled_of_dispatchedEvents member with ⟨index, polled⟩
  rcases presented index event polled acknowledged with ⟨deliveryId, original, presents, rfl⟩
  exact presents.wellFormed named

end SignalPurple
