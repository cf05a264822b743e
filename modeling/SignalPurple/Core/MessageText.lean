import SignalPurple.Core.Media

/-! # Text of a data message

Where a data message belongs and the text that stands for it in a conversation.
-/

namespace SignalPurple

inductive GroupMessageTarget where
  | direct
  | group (key : GroupKey)
  | malformed
  deriving DecidableEq

def groupMessageTarget (message : DataMessage) : GroupMessageTarget :=
  match message.groupV2 with
  | none => .direct
  | some group =>
      match group.masterKey.bind GroupKey.tryFrom with
      | some key => .group key
      | none => .malformed

structure BareDataMessageRoute where
  peer : String
  outgoing : Bool
  deriving DecidableEq

def bareDataMessageRoute (sender destination : ServiceId) (localAci : Aci) :
    BareDataMessageRoute :=
  let outgoing := sender == .aci localAci
  { peer := (if outgoing then destination else sender).serviceIdString, outgoing }

def groupMessagePeer (outgoing : Bool) (peer : String) (localAci : Aci) : String :=
  if outgoing then (ServiceId.aci localAci).serviceIdString else peer

/-- The object replacement character, which stands for a mention in a body. -/
def mentionPlaceholder : Char := '￼'

/-- The accounts mentioned, in the order of the ranges. -/
def mentionedAcis (bodyRanges : List BodyRange) : List String :=
  bodyRanges.filterMap fun range =>
    match range with
    | .mentionAci aci => some aci
    | .other => none

/-- Placeholders take the mentions in order; one too many is a bare `@`. -/
def replaceMentions : List String → List Char → List Char
  | _, [] => []
  | [], character :: rest =>
      (if character = mentionPlaceholder then '@' else character) :: replaceMentions [] rest
  | aci :: later, character :: rest =>
      if character = mentionPlaceholder then '@' :: (aci.toList ++ replaceMentions later rest)
      else character :: replaceMentions (aci :: later) rest

def formatBodyWithMentions (body : String) (bodyRanges : List BodyRange) : String :=
  let mentions := mentionedAcis bodyRanges
  if mentions = [] ∨ mentionPlaceholder ∉ body.toList then body
  else String.ofList (replaceMentions mentions body.toList)

def Preview.text (preview : Preview) : Option String :=
  nonempty preview.url <|> nonempty preview.title <|> nonempty preview.description

/-- The body, or else the first preview that says something. -/
def messageBody (message : DataMessage) : String :=
  ((nonempty message.body).map (formatBodyWithMentions · message.bodyRanges) <|>
    message.preview.findSome? Preview.text).getD ""

def quotedLines (text : String) : String :=
  "\n".intercalate ((lines text).map fun line => "> " ++ line)

def withQuote (quote : Option Quote) (body : String) : String :=
  match quote.bind fun quote => nonempty quote.text with
  | none => body
  | some quoteText =>
      if body = "" then quotedLines quoteText else quotedLines quoteText ++ "\n\n" ++ body

def dataMessageText (message : DataMessage) : String :=
  if message.isDelete then "[Message deleted by sender]"
  else if message.isViewOnce.getD false then
    match nonempty message.body with
    | some body => "[View-once media: open on primary phone] " ++ body
    | none => "[View-once media: open on primary phone]"
  else
    match message.reaction.bind (·.emoji) with
    | some emoji => "Reacted with " ++ emoji
    | none => withQuote message.quote (messageBody message)

def regularMessageAttachments (message : DataMessage) : List AttachmentPointer :=
  if message.isViewOnce.getD false then [] else message.attachments

def withPlaceholders : String → List (Option String × Bool) → String
  | text, [] => text
  | text, (name, suppressPlaceholder) :: attachments =>
      if suppressPlaceholder then withPlaceholders text attachments
      else
        let separated := if text = "" then text else text ++ "\n"
        withPlaceholders (separated ++ "[Attachment: " ++ name.getD "attachment" ++ "]")
          attachments

def projectedDataMessageText (text : String) (attachments : List (Option String × Bool)) :
    Option String :=
  nonempty (some (withPlaceholders text attachments))

/-! ## Lines of a projected text -/

def attachmentPlaceholder (name : Option String) : String :=
  "[Attachment: " ++ name.getD "attachment" ++ "]"

/-- The text of the message, unless it is empty, and the placeholders. -/
def projectedLines (text : String) (attachments : List (Option String × Bool)) : List String :=
  (nonempty (some text)).toList ++
    (attachments.filter fun attachment => !attachment.2).map fun attachment =>
      attachmentPlaceholder attachment.1

@[simp] theorem nonempty_empty : nonempty (some "") = none := by
  simp [nonempty, Option.filter]

theorem nonempty_of_ne {text : String} (present : text ≠ "") :
    nonempty (some text) = some text := by
  simp [nonempty, Option.filter, present]

theorem attachmentPlaceholder_ne (name : Option String) : attachmentPlaceholder name ≠ "" := by
  simp [attachmentPlaceholder]

theorem ne_of_mem_projectedLines {text line : String} {attachments : List (Option String × Bool)}
    (member : line ∈ projectedLines text attachments) : line ≠ "" := by
  rcases List.mem_append.mp member with own | placeholder
  · have kept : nonempty (some text) = some line := by simpa using own
    exact (by simpa using Option.filter_eq_some_iff.mp kept : _ ∧ _).2
  · obtain ⟨attachment, _, rfl⟩ := List.mem_map.mp placeholder
    exact attachmentPlaceholder_ne _

theorem withPlaceholders_eq (text : String) (attachments : List (Option String × Bool)) :
    withPlaceholders text attachments = "\n".intercalate (projectedLines text attachments) := by
  -- Every round leaves a text that is one line for the rounds after it.
  induction attachments generalizing text with
  | nil =>
      by_cases empty : text = ""
      · simp [withPlaceholders, projectedLines, empty]
      · simp [withPlaceholders, projectedLines, nonempty_of_ne empty]
  | cons attachment later induction =>
      obtain ⟨name, suppressed⟩ := attachment
      cases suppressed with
      | true => simpa [withPlaceholders, projectedLines] using induction text
      | false =>
          have step : withPlaceholders text ((name, false) :: later) = withPlaceholders
              ((if text = "" then text else text ++ "\n") ++ attachmentPlaceholder name) later := by
            simp [withPlaceholders, attachmentPlaceholder, String.append_assoc]
          have present : (if text = "" then text else text ++ "\n") ++
              attachmentPlaceholder name ≠ "" := by
            simp [attachmentPlaceholder]
          rw [step, induction, projectedLines, nonempty_of_ne present]
          by_cases empty : text = ""
          · simp [projectedLines, empty]
          · simp [projectedLines, empty, nonempty_of_ne empty]

theorem projectedDataMessageText_eq (text : String) (attachments : List (Option String × Bool)) :
    projectedDataMessageText text attachments =
      if projectedLines text attachments = [] then none
      else some ("\n".intercalate (projectedLines text attachments)) := by
  rw [projectedDataMessageText, withPlaceholders_eq]
  split
  next empty =>
    simp [empty]
  next present =>
    apply nonempty_of_ne
    cases shown : projectedLines text attachments with
    | nil => exact absurd shown present
    | cons line later =>
        have member : line ∈ projectedLines text attachments := shown ▸ List.mem_cons_self
        have notEmpty := ne_of_mem_projectedLines member
        cases later with
        | nil => simpa using notEmpty
        | cons second rest => simp

end SignalPurple
