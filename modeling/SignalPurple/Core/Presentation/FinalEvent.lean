import SignalPurple.Core.Presentation

/-! # The final event of a message

A message that waits for an acknowledgment is shown by a text, by attachments or by both.
The last of these events carries the delivery id, and every attachment of the message is
among them: as an event of its own, or as a line of the text.
-/

namespace SignalPurple

/-! ## Statement -/

def Event.isText (event : Event) : Bool :=
  event.kind = .message ∨ event.kind = .groupMessage

def Event.isAttachment (event : Event) : Bool := event.kind = .attachment

def Event.isPresentation (event : Event) : Bool := event.isText || event.isAttachment

/-- The last event carries the delivery id, the earlier ones carry none. -/
structure EndsDelivery (deliveryId : DeliveryId) (events : List Event) : Prop where
  final : ∃ earlier last, events = earlier ++ [last] ∧ last.requestId = deliveryId ∧
    ∀ event ∈ earlier, event.requestId = 0
  /-- Zero is no delivery id. -/
  once : deliveryId ≠ 0 → events.countP (·.requestId = deliveryId) = 1

abbrev AttachmentEntry := AttachmentPointer × Nat

/-- The event brings the attachment as it was received, or the animation made of it. -/
structure BringsAttachment (outcomes : PresentationOutcomes) (entry : AttachmentEntry)
    (event : Event) : Prop where
  kind : event.kind = .attachment
  payload : (∃ received, outcomes.download entry.2 = .ok received ∧
      event.title = some (attachmentDisplayName entry.1) ∧
      event.data = truncateAttachmentToSenderSize entry.1 received) ∨
    event.title = some (signalGifInlineFilename entry.1) ∧
      outcomes.transcode entry.2 = some event.data

/-- The attachments `placed` have a line of the text, and `sent` have an event each. -/
structure RepresentsAttachments (message : DataMessage) (outcomes : PresentationOutcomes)
    (events : List Event) (placed sent : List AttachmentEntry) : Prop where
  placed_sublist : placed.Sublist (regularMessageAttachments message).zipIdx
  sent_sublist : sent.Sublist (regularMessageAttachments message).zipIdx
  covers : ∀ entry ∈ (regularMessageAttachments message).zipIdx, entry ∈ placed ∨ entry ∈ sent
  texts : let lines := (nonempty (some (dataMessageText message))).toList ++
      placed.map fun entry => attachmentPlaceholder (some (attachmentDisplayName entry.1))
    (events.filter Event.isText).map (·.text) =
      if lines = [] then [] else [some ("\n".intercalate lines)]
  attachments : List.Forall₂ (BringsAttachment outcomes) sent (events.filter Event.isAttachment)

/-- What the events of `emit_data_message` are, given how it says the projection went on. -/
def PresentationLaw (projection : DataMessageProjection) (outcomes : PresentationOutcomes)
    (emitted : List Event × ProjectionDisposition) : Prop :=
  match emitted.2 with
  | .awaitingAck =>
      EndsDelivery projection.deliveryId (emitted.1.filter Event.isPresentation) ∧
        ∃ placed sent, RepresentsAttachments projection.message outcomes emitted.1 placed sent
  | .complete | .retry => emitted.1.filter Event.isPresentation = []

/-! ## Delivery ids -/

theorem endsDelivery_of_concat {deliveryId : DeliveryId} {earlier : List Event} {last : Event}
    (final : last.requestId = deliveryId) (others : ∀ event ∈ earlier, event.requestId = 0) :
    EndsDelivery deliveryId (earlier ++ [last]) where
  final := ⟨earlier, last, rfl, final, others⟩
  once nonzero := by
    have none_earlier : earlier.countP (·.requestId = deliveryId) = 0 := by
      apply List.countP_eq_zero.mpr
      intro event member
      simpa [others event member] using nonzero.symm
    rw [List.countP_append, none_earlier]
    simp [final]

theorem EndsDelivery.cons {deliveryId : DeliveryId} {first : Event} {events : List Event}
    (unmarked : first.requestId = 0) (ends : EndsDelivery deliveryId events) :
    EndsDelivery deliveryId (first :: events) := by
  obtain ⟨earlier, last, rfl, final, others⟩ := ends.final
  exact endsDelivery_of_concat final (List.forall_mem_cons.mpr ⟨unmarked, others⟩)

section Presentation

variable {account : Account} {projection : DataMessageProjection}
  {group : Option (GroupKey × Group)} {outcomes : PresentationOutcomes}

theorem endsDelivery_attachmentEvents {downloaded : List DownloadedAttachment}
    (present : downloaded ≠ []) :
    EndsDelivery projection.deliveryId
      (attachmentEvents account projection group downloaded) := by
  induction downloaded with
  | nil => exact absurd rfl present
  | cons attachment later induction =>
      cases later with
      | nil => exact @endsDelivery_of_concat _ [] _ rfl (by simp)
      | cons next rest => exact (induction (by simp)).cons rfl

/-! ## Downloads -/

/-- The download that is kept of an attachment, before or after its conversion. -/
structure KeptOf (outcomes : PresentationOutcomes) (entry : AttachmentEntry)
    (attachment : DownloadedAttachment) : Prop where
  index : attachment.attachmentIndex = entry.2
  gifName : ∀ filename, attachment.signalGifFilename = some filename →
    filename = signalGifInlineFilename entry.1
  payload : (∃ received, outcomes.download entry.2 = .ok received ∧
      attachment.filename = attachmentDisplayName entry.1 ∧
      attachment.data = truncateAttachmentToSenderSize entry.1 received) ∨
    attachment.filename = signalGifInlineFilename entry.1 ∧
      outcomes.transcode entry.2 = some attachment.data

theorem keptOf_new {entry : AttachmentEntry} {received : Bytes}
    (downloaded : outcomes.download entry.2 = .ok received) :
    KeptOf outcomes entry (DownloadedAttachment.new entry.2 entry.1
      (truncateAttachmentToSenderSize entry.1 received)) where
  index := rfl
  gifName filename named := by
    obtain ⟨_, name⟩ := Option.ite_none_right_eq_some.mp named
    exact (Option.some.inj name).symm
  payload := .inl ⟨received, downloaded, rfl, rfl⟩

theorem KeptOf.applySignalGif {entry : AttachmentEntry} {attachment : DownloadedAttachment}
    {gif : Bytes} (kept : KeptOf outcomes entry attachment)
    (converted : outcomes.transcode entry.2 = some gif) :
    KeptOf outcomes entry (attachment.applySignalGif gif) := by
  unfold DownloadedAttachment.applySignalGif
  split
  next => exact kept
  next filename named =>
    split
    · exact ⟨kept.index, by simp, .inr ⟨kept.gifName filename named, converted⟩⟩
    · exact kept

theorem keptOf_downloadAttachments (entries : List AttachmentEntry) :
    ∃ sent, sent.Sublist entries ∧
      List.Forall₂ (KeptOf outcomes) sent (downloadAttachments outcomes.download entries).2 := by
  induction entries with
  | nil => exact ⟨[], .slnil, .nil⟩
  | cons entry later induction =>
      obtain ⟨sent, within, kept⟩ := induction
      rcases downloadAttachment_cases entry.2 entry.1 (outcomes.download entry.2) with
        ⟨reason, failed⟩ | ⟨received, downloaded, _, _, result⟩
      · refine ⟨sent, within.cons entry, ?_⟩
        simpa [downloadAttachments, failed] using kept
      · refine ⟨entry :: sent, within.cons_cons entry, ?_⟩
        simpa [downloadAttachments, result] using ⟨keptOf_new downloaded, kept⟩

theorem keptOf_downloadIncoming (outgoing : Bool) (pointers : List AttachmentPointer) :
    ∃ sent, sent.Sublist pointers.zipIdx ∧
      List.Forall₂ (KeptOf outcomes) sent
        (downloadIncoming outgoing outcomes.download pointers).2 := by
  cases outgoing with
  | true => exact ⟨[], List.nil_sublist _, .nil⟩
  | false =>
      obtain ⟨sent, within, kept⟩ := @keptOf_downloadAttachments outcomes
        (pointers.zipIdx.take maxAttachmentDownloadsPerMessage)
      exact ⟨sent, within.trans (List.take_sublist _ _), kept⟩

theorem keptOf_transcodeAttachments {sent : List AttachmentEntry}
    {downloaded : List DownloadedAttachment} (transcodes : Nat)
    (kept : List.Forall₂ (KeptOf outcomes) sent downloaded) :
    List.Forall₂ (KeptOf outcomes) sent
      (transcodeAttachments outcomes.transcode transcodes downloaded) := by
  induction kept generalizing transcodes with
  | nil => exact .nil
  | @cons entry attachment _ later first rest induction =>
      unfold transcodeAttachments
      split
      · exact .cons first rest
      · split
        · exact .cons first (induction transcodes)
        · refine .cons ?_ (induction (transcodes + 1))
          split
          next gif converted =>
            exact first.applySignalGif (first.index ▸ converted)
          next => exact first

/-! ## Events -/

theorem bringsAttachment_attachmentEvents {sent : List AttachmentEntry}
    {downloaded : List DownloadedAttachment}
    (kept : List.Forall₂ (KeptOf outcomes) sent downloaded) :
    List.Forall₂ (BringsAttachment outcomes) sent
      (attachmentEvents account projection group downloaded) := by
  induction kept with
  | nil => exact .nil
  | cons first rest induction =>
      refine .cons ⟨rfl, ?_⟩ induction
      simpa using first.payload

@[simp] theorem isText_textEvent (requestId : DeliveryId) (text : String) :
    (textEvent account projection group requestId text).isText = true := by
  cases group <;> rfl

@[simp] theorem isAttachment_textEvent (requestId : DeliveryId) (text : String) :
    (textEvent account projection group requestId text).isAttachment = false := by
  cases group <;> rfl

@[simp] theorem text_textEvent (requestId : DeliveryId) (text : String) :
    (textEvent account projection group requestId text).text = some text := by
  cases group <;> rfl

@[simp] theorem requestId_textEvent (requestId : DeliveryId) (text : String) :
    (textEvent account projection group requestId text).requestId = requestId := by
  cases group <;> rfl

theorem kind_of_attachmentEvents (downloaded : List DownloadedAttachment) :
    ∀ event ∈ attachmentEvents account projection group downloaded,
      event.kind = .attachment := by
  induction downloaded with
  | nil => simp [attachmentEvents]
  | cons attachment later induction => exact List.forall_mem_cons.mpr ⟨rfl, induction⟩

/-- The parts of a presentation, told apart by their kinds. -/
structure PresentationParts (events texts attachments : List Event) : Prop where
  all : events.filter Event.isPresentation = texts ++ attachments
  texts : events.filter Event.isText = texts
  attachments : events.filter Event.isAttachment = attachments

theorem presentationParts_append {errors texts attachments : List Event}
    (failed : ∀ event ∈ errors, event.kind = .error)
    (written : ∀ event ∈ texts, event.isText = true ∧ event.isAttachment = false)
    (brought : ∀ event ∈ attachments, event.kind = .attachment) :
    PresentationParts (errors ++ texts ++ attachments) texts attachments := by
  have noText : attachments.filter Event.isText = [] :=
    List.filter_eq_nil_iff.mpr fun event member => by simp [Event.isText, brought event member]
  have noAttachment : texts.filter Event.isAttachment = [] :=
    List.filter_eq_nil_iff.mpr fun event member => by simp [written event member]
  have onlyErrors (shows : Event → Bool) (unshown : ∀ event, event.kind = .error →
      shows event = false) : errors.filter shows = [] :=
    List.filter_eq_nil_iff.mpr fun event member => by simp [unshown event (failed event member)]
  have allTexts : texts.filter Event.isText = texts :=
    List.filter_eq_self.mpr fun event member => (written event member).1
  have allAttachments : attachments.filter Event.isAttachment = attachments :=
    List.filter_eq_self.mpr fun event member => by
      simp [Event.isAttachment, brought event member]
  constructor
  · have shownTexts : texts.filter Event.isPresentation = texts :=
      List.filter_eq_self.mpr fun event member => by
        simp [Event.isPresentation, written event member]
    have shownAttachments : attachments.filter Event.isPresentation = attachments :=
      List.filter_eq_self.mpr fun event member => by
        simp [Event.isPresentation, Event.isAttachment, brought event member]
    rw [List.filter_append, List.filter_append, shownTexts, shownAttachments, onlyErrors _
      fun event kind => by simp [Event.isPresentation, Event.isText, Event.isAttachment, kind]]
    rfl
  · rw [List.filter_append, List.filter_append, allTexts, noText,
      onlyErrors _ fun event kind => by simp [Event.isText, kind]]
    simp
  · rw [List.filter_append, List.filter_append, noAttachment, allAttachments,
      onlyErrors _ fun event kind => by simp [Event.isAttachment, kind]]
    rfl

/-! ## A whole message -/

section Message

variable (message : DataMessage) (inline : List Nat)

def placedEntries : List AttachmentEntry :=
  (regularMessageAttachments message).zipIdx.filter fun entry => decide (entry.2 ∉ inline)

def presentedLines : List String :=
  (nonempty (some (dataMessageText message))).toList ++
    (placedEntries message inline).map fun entry =>
      attachmentPlaceholder (some (attachmentDisplayName entry.1))

theorem projectedDataMessageText_of_message :
    projectedDataMessageText (dataMessageText message)
        ((regularMessageAttachments message).zipIdx.map fun entry =>
          (some (attachmentDisplayName entry.1), decide (entry.2 ∈ inline))) =
      if presentedLines message inline = [] then none
      else some ("\n".intercalate (presentedLines message inline)) := by
  have lines : projectedLines (dataMessageText message)
      ((regularMessageAttachments message).zipIdx.map fun entry =>
        (some (attachmentDisplayName entry.1), decide (entry.2 ∈ inline))) =
      presentedLines message inline := by
    simp only [projectedLines, presentedLines, placedEntries, List.filter_map, List.map_map,
      decide_not]
    rfl
  rw [projectedDataMessageText_eq, lines]

/-- Without an inline attachment there is a line for everything the message has. -/
theorem presentedLines_ne (present : ¬(dataMessageText message = "" ∧
    regularMessageAttachments message = [])) : presentedLines message [] ≠ [] := by
  intro empty
  obtain ⟨noText, noPlaceholder⟩ := List.append_eq_nil_iff.mp empty
  apply present
  constructor
  · by_contra notEmpty
    simp [nonempty_of_ne notEmpty] at noText
  · simpa [placedEntries] using noPlaceholder

end Message

theorem exists_keptOf_of_mem {sent : List AttachmentEntry}
    {downloaded : List DownloadedAttachment} {attachment : DownloadedAttachment}
    (kept : List.Forall₂ (KeptOf outcomes) sent downloaded) (member : attachment ∈ downloaded) :
    ∃ entry ∈ sent, KeptOf outcomes entry attachment := by
  induction kept with
  | nil => cases member
  | cons first _ induction =>
      rcases List.mem_cons.mp member with rfl | later
      · exact ⟨_, List.mem_cons_self, first⟩
      · obtain ⟨entry, sentHere, keptOf⟩ := induction later
        exact ⟨entry, List.mem_cons_of_mem _ sentHere, keptOf⟩

theorem mem_sent_of_inline {pointers : List AttachmentPointer} {sent : List AttachmentEntry}
    {downloaded : List DownloadedAttachment} (within : sent.Sublist pointers.zipIdx)
    (kept : List.Forall₂ (KeptOf outcomes) sent downloaded) {outgoing : Bool}
    {entry : AttachmentEntry} (member : entry ∈ pointers.zipIdx)
    (inline : entry.2 ∈ inlineAttachmentIndexes outgoing downloaded) : entry ∈ sent := by
  obtain ⟨attachment, shown, index⟩ := List.mem_map.mp inline
  obtain ⟨other, sentHere, keptOf⟩ := exists_keptOf_of_mem kept (List.mem_of_mem_filter shown)
  have same : other.2 = entry.2 := keptOf.index.symm.trans index
  have first := List.mem_zipIdx_iff_getElem?.mp (within.subset sentHere)
  have second := List.mem_zipIdx_iff_getElem?.mp member
  rw [same, second] at first
  have equal : entry = other := Prod.ext (Option.some.inj first) same.symm
  exact equal ▸ sentHere

def presentedTexts (account : Account) (projection : DataMessageProjection)
    (group : Option (GroupKey × Group)) (requestId : DeliveryId) (lines : List String) :
    List Event :=
  if lines = [] then []
  else [textEvent account projection group requestId ("\n".intercalate lines)]

theorem text_presentedTexts (requestId : DeliveryId) (lines : List String) :
    (presentedTexts account projection group requestId lines).map (·.text) =
      if lines = [] then [] else [some ("\n".intercalate lines)] := by
  unfold presentedTexts
  split <;> simp

theorem representsAttachments_of_parts {events : List Event} {sent : List AttachmentEntry}
    {downloaded : List DownloadedAttachment} {requestId : DeliveryId}
    (within : sent.Sublist (regularMessageAttachments projection.message).zipIdx)
    (kept : List.Forall₂ (KeptOf outcomes) sent downloaded)
    (parts : PresentationParts events
      (presentedTexts account projection group requestId (presentedLines projection.message
        (inlineAttachmentIndexes projection.outgoing downloaded)))
      (attachmentEvents account projection group downloaded)) :
    RepresentsAttachments projection.message outcomes events
      (placedEntries projection.message
        (inlineAttachmentIndexes projection.outgoing downloaded)) sent where
  placed_sublist := List.filter_sublist
  sent_sublist := within
  covers entry member := by
    by_cases inline : entry.2 ∈ inlineAttachmentIndexes projection.outgoing downloaded
    · exact .inr (mem_sent_of_inline within kept member inline)
    · exact .inl (List.mem_filter.mpr ⟨member, decide_eq_true inline⟩)
  texts := by
    rw [parts.texts]
    exact text_presentedTexts _ _
  attachments := parts.attachments ▸ bringsAttachment_attachmentEvents kept

theorem endsDelivery_of_parts {downloaded : List DownloadedAttachment}
    (present : ¬(dataMessageText projection.message = "" ∧
      regularMessageAttachments projection.message = [])) :
    EndsDelivery projection.deliveryId
      (presentedTexts account projection group
          (if downloaded.isEmpty then projection.deliveryId else 0)
          (presentedLines projection.message
            (inlineAttachmentIndexes projection.outgoing downloaded)) ++
        attachmentEvents account projection group downloaded) := by
  cases downloaded with
  | nil =>
      have lines := presentedLines_ne projection.message present
      simp only [presentedTexts, inlineAttachmentIndexes, List.filter_nil, List.map_nil,
        if_neg lines, attachmentEvents, List.append_nil]
      exact @endsDelivery_of_concat _ [] _ (by simp) (by simp)
  | cons attachment later =>
      have ends := @endsDelivery_attachmentEvents account projection group
        (attachment :: later) (by simp)
      unfold presentedTexts
      split
      · exact ends
      · exact ends.cons (by simp)

def presentedDownloads (projection : DataMessageProjection) (outcomes : PresentationOutcomes) :
    List DownloadedAttachment :=
  transcodeAttachments outcomes.transcode 0
    (downloadIncoming projection.outgoing outcomes.download
      (regularMessageAttachments projection.message)).2

theorem toList_map_textEvent (requestId : DeliveryId) (lines : List String) :
    ((if lines = [] then none else some ("\n".intercalate lines)).map
      (textEvent account projection group requestId)).toList =
      presentedTexts account projection group requestId lines := by
  unfold presentedTexts
  split <;> rfl

theorem isText_presentedTexts (requestId : DeliveryId) (lines : List String) :
    ∀ event ∈ presentedTexts account projection group requestId lines,
      event.isText = true ∧ event.isAttachment = false := by
  unfold presentedTexts
  split <;> simp

theorem presentDataMessage_parts (account : Account) (projection : DataMessageProjection)
    (group : Option (GroupKey × Group)) (outcomes : PresentationOutcomes) :
    PresentationParts (presentDataMessage account projection group outcomes)
      (presentedTexts account projection group
        (if (presentedDownloads projection outcomes).isEmpty then projection.deliveryId else 0)
        (presentedLines projection.message (inlineAttachmentIndexes projection.outgoing
          (presentedDownloads projection outcomes))))
      (attachmentEvents account projection group (presentedDownloads projection outcomes)) := by
  simp only [presentDataMessage, projectedDataMessageText_of_message, toList_map_textEvent]
  exact presentationParts_append kind_of_downloadIncoming (isText_presentedTexts _ _)
    (kind_of_attachmentEvents _)

theorem presentationLaw_presentDataMessage
    (present : ¬(dataMessageText projection.message = "" ∧
      regularMessageAttachments projection.message = [])) :
    PresentationLaw projection outcomes
      (presentDataMessage account projection group outcomes, .awaitingAck) := by
  obtain ⟨sent, within, received⟩ := @keptOf_downloadIncoming outcomes projection.outgoing
    (regularMessageAttachments projection.message)
  have kept := keptOf_transcodeAttachments 0 received
  have parts := presentDataMessage_parts account projection group outcomes
  refine ⟨?_, _, sent, representsAttachments_of_parts within kept parts⟩
  exact parts.all ▸ endsDelivery_of_parts present

/-- Whatever the message, its target and the outcomes of the lookups, downloads and
conversions: a message that waits for an acknowledgment ends with its delivery id and
shows all of its attachments, and no other message is shown. -/
theorem presentationLaw_of_emitDataMessage (account : Account) (departed : DepartedGroups)
    (projection : DataMessageProjection) (outcomes : PresentationOutcomes) :
    PresentationLaw projection outcomes
      (emitDataMessage account departed projection outcomes) := by
  simp only [emitDataMessage]
  split
  · rfl
  · split
    next => rfl
    next present =>
      exact presentationLaw_presentDataMessage present
  · split
    next => rfl
    next present =>
      split
      · exact presentationLaw_presentDataMessage present
      · rfl
      · rfl
      · rfl

end Presentation

end SignalPurple
