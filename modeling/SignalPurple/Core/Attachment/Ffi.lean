import SignalPurple.Core.Attachment.Accounting

/-! # Queueing an attachment

`send_attachment` and `send_file_attachment` check their arguments, reserve admission and
then a place in the command channel, and hand the permit over with the command. An early
return after the reservation drops the permit.
-/

namespace SignalPurple

inductive SignalStatus where
  | ok
  | invalidArgument
  | notReady
  | queueFull
  | internalError
  deriving DecidableEq

def maxStorePathBytes : Nat := 4096
def maxRecipientBytes : Nat := 256
def groupKeyBytes : Nat := 64
def maxAttachmentFilenameBytes : Nat := 255
def maxContentTypeBytes : Nat := 255

/-- A `char *` argument: null, or the bytes before the terminating zero. -/
abbrev CharPointer := Option (List UInt8)

def demand (condition : Bool) (status : SignalStatus) : Except SignalStatus Unit :=
  if condition then .ok () else .error status

def orInvalid {α : Type} : Option α → Except SignalStatus α
  | none => .error .invalidArgument
  | some value => .ok value

def requiredString (value : CharPointer) (maximumBytes : Nat) : Except SignalStatus String := do
  let bytes ← orInvalid value
  demand (bytes ≠ [] && bytes.length ≤ maximumBytes) .invalidArgument
  orInvalid (String.fromUTF8? ⟨bytes.toArray⟩)

def hexValue (digit : UInt8) : Option UInt8 :=
  if 48 ≤ digit ∧ digit ≤ 57 then some (digit - 48)
  else if 97 ≤ digit ∧ digit ≤ 102 then some (digit - 87)
  else if 65 ≤ digit ∧ digit ≤ 70 then some (digit - 55)
  else none

/-- `hex::decode`, which refuses an odd number of digits. -/
def hexDecode : List UInt8 → Option (List UInt8)
  | [] => some []
  | [_] => none
  | high :: low :: rest =>
      match hexValue high, hexValue low, hexDecode rest with
      | some high, some low, some bytes => some ((16 * high + low) :: bytes)
      | _, _, _ => none

def isGroupKey (recipient : String) : Bool :=
  let digits := recipient.toUTF8.data.toList
  digits.length = groupKeyBytes && (hexDecode digits).any (·.length = 32)

inductive AttachmentPayload where
  | data (bytes : List UInt8)
  | path (path : String)
  deriving DecidableEq

structure SendAttachment where
  requestId : UInt64
  recipient : String
  filename : String
  contentType : String
  data : AttachmentPayload
  group : Bool
  permit : AttachmentPermit
  deriving DecidableEq

/-- A command of the worker; here the others only take up places in the channel. -/
inductive Command where
  | sendAttachment (attachment : SendAttachment)
  | other
  deriving DecidableEq

structure CommandChannel where
  capacity : Nat := 128
  closed : Bool := false
  pending : List Command := []

inductive TrySendError where
  | full
  | closed
  deriving DecidableEq

namespace CommandChannel

def tryReserve (channel : CommandChannel) : Except TrySendError Unit :=
  if channel.closed then .error .closed
  else if channel.capacity ≤ channel.pending.length then .error .full
  else .ok ()

def send (channel : CommandChannel) (command : Command) : CommandChannel :=
  { channel with pending := channel.pending ++ [command] }

end CommandChannel

structure SignalCore where
  attachments : AttachmentAdmission := .new
  controls : AttachmentControls := {}
  ready : Bool := false
  commands : CommandChannel := {}

structure CheckedAttachment where
  recipient : String
  filename : String
  contentType : String
  data : AttachmentPayload
  size : UInt64

def CheckedAttachment.command (checked : CheckedAttachment) (requestId : UInt64) (group : Bool)
    (permit : AttachmentPermit) : SendAttachment where
  requestId := requestId
  recipient := checked.recipient
  filename := checked.filename
  contentType := checked.contentType
  data := checked.data
  group := group
  permit := permit

/-- The two reservations, in the order the code makes them. -/
def SignalCore.queueAttachment (core : SignalCore) (requestId : UInt64) (group : Bool)
    (checked : CheckedAttachment) : SignalStatus × SignalCore :=
  match core.attachments.tryReserve core.controls requestId checked.size with
  | (.error .invalid, attachments, controls) =>
      (.invalidArgument, { core with attachments, controls })
  | (.error .capacity, attachments, controls) =>
      (.queueFull, { core with attachments, controls })
  | (.ok permit, attachments, controls) =>
      -- A return from here on without sending drops the permit.
      match core.commands.tryReserve with
      | .error .full =>
          (.queueFull, { core with
            attachments := attachments.release permit.requestId, controls })
      | .error .closed =>
          (.internalError, { core with
            attachments := attachments.release permit.requestId, controls })
      | .ok () =>
          (.ok, { core with
            attachments, controls
            commands := core.commands.send
              (.sendAttachment (checked.command requestId group permit)) })

def SignalCore.queueChecked (core : SignalCore) (requestId : UInt64) (group : Bool) :
    Except SignalStatus CheckedAttachment → SignalStatus × SignalCore
  | .error status => (status, core)
  | .ok checked => core.queueAttachment requestId group checked

structure AttachmentInput where
  recipient : CharPointer
  filename : CharPointer
  contentType : CharPointer
  data : Option (List UInt8)
  dataLen : UInt64

def AttachmentInput.check (input : AttachmentInput) (ready group : Bool) :
    Except SignalStatus CheckedAttachment := do
  let data ← orInvalid input.data
  demand (input.dataLen ≠ 0 && input.dataLen ≤ maxAttachmentBytes) .invalidArgument
  demand ready .notReady
  let recipient ← requiredString input.recipient maxRecipientBytes
  let filename ← requiredString input.filename maxAttachmentFilenameBytes
  let contentType ← requiredString input.contentType maxContentTypeBytes
  demand (!group || isGroupKey recipient) .invalidArgument
  return {
    recipient, filename, contentType
    data := .data (data.take input.dataLen.toNat)
    size := input.dataLen }

def sendAttachment (core : Option SignalCore) (requestId : UInt64) (input : AttachmentInput)
    (group : Bool) : SignalStatus × Option SignalCore :=
  match core with
  | none => (.invalidArgument, none)
  | some core =>
      (core.queueChecked requestId group (input.check core.ready group)).map id some

structure FileMetadata where
  isFile : Bool
  len : UInt64

structure FileAttachmentInput where
  recipient : CharPointer
  filename : CharPointer
  contentType : CharPointer
  filePath : CharPointer

/-- `metadata` is what the file system says of a path. -/
def FileAttachmentInput.check (input : FileAttachmentInput)
    (metadata : String → Option FileMetadata) (ready group : Bool) :
    Except SignalStatus CheckedAttachment := do
  demand input.filePath.isSome .invalidArgument
  demand ready .notReady
  let recipient ← requiredString input.recipient maxRecipientBytes
  let filename ← requiredString input.filename maxAttachmentFilenameBytes
  let contentType ← requiredString input.contentType maxContentTypeBytes
  let path ← requiredString input.filePath maxStorePathBytes
  let metadata ← orInvalid (metadata path)
  demand metadata.isFile .invalidArgument
  demand (metadata.len ≠ 0 && metadata.len ≤ maxAttachmentBytes) .invalidArgument
  demand (!group || isGroupKey recipient) .invalidArgument
  return { recipient, filename, contentType, data := .path path, size := metadata.len }

def sendFileAttachment (metadata : String → Option FileMetadata) (core : Option SignalCore)
    (requestId : UInt64) (input : FileAttachmentInput) (group : Bool) :
    SignalStatus × Option SignalCore :=
  match core with
  | none => (.invalidArgument, none)
  | some core =>
      (core.queueChecked requestId group (input.check metadata core.ready group)).map id some

def signalCoreSendAttachment (core : Option SignalCore) (requestId : UInt64)
    (input : AttachmentInput) : SignalStatus × Option SignalCore :=
  sendAttachment core requestId input false

def signalCoreSendGroupAttachment (core : Option SignalCore) (requestId : UInt64)
    (input : AttachmentInput) : SignalStatus × Option SignalCore :=
  sendAttachment core requestId input true

def signalCoreSendFileAttachment (metadata : String → Option FileMetadata)
    (core : Option SignalCore) (requestId : UInt64) (input : FileAttachmentInput) :
    SignalStatus × Option SignalCore :=
  sendFileAttachment metadata core requestId input false

def signalCoreSendGroupFileAttachment (metadata : String → Option FileMetadata)
    (core : Option SignalCore) (requestId : UInt64) (input : FileAttachmentInput) :
    SignalStatus × Option SignalCore :=
  sendFileAttachment metadata core requestId input true

def signalCoreCancelAttachment (core : Option SignalCore) (requestId : UInt64) :
    SignalStatus × Option SignalCore :=
  match core with
  | none => (.invalidArgument, none)
  | some core =>
      if requestId = 0 then (.invalidArgument, some core)
      else (.ok, some { core with
        controls := (core.attachments.cancel core.controls requestId).2 })

/-! ## What a call leaves behind -/

/-- The table with its controls, beside the permits that are alive in the program. -/
def SignalCore.admissionRun (core : SignalCore) (permits : List LivePermit) : AdmissionRun :=
  { admission := core.attachments, controls := core.controls, permits }

/-- An accepted call entered one request into the table and queued one command, which owns
the permit. -/
structure SignalCore.Queued (requestId : UInt64) (before after : SignalCore)
    (attachment : SendAttachment) (size : UInt64) : Prop where
  named : attachment.requestId = requestId ∧ attachment.permit.requestId = requestId
  fresh : requestId ∉ before.attachments.state.requests
  requests : after.attachments.state.requests =
    before.attachments.state.requests.insert requestId
      { bytes := size, control := attachment.permit.control }
  pending : after.commands.pending =
    before.commands.pending ++ [.sendAttachment attachment]

/-- A call acts on the table through its operations only, and changes like this which
permits are alive. -/
def SignalCore.Performs (before after : SignalCore)
    (change : List LivePermit → List LivePermit) : Prop :=
  ∀ maximumBytes maximumAttachments permits, ∃ labels observed,
    (AdmissionRun.machine maximumBytes maximumAttachments).runFrom
        (before.admissionRun permits) labels =
      some (after.admissionRun (change permits), observed)

structure SendLaw (requestId : UInt64) (before : SignalCore) (status : SignalStatus)
    (after : SignalCore) : Prop where
  failed : status ≠ .ok →
    after.attachments = before.attachments ∧ after.commands = before.commands ∧
      before.Performs after id
  queued : status = .ok → ∃ attachment size,
    SignalCore.Queued requestId before after attachment size ∧
      before.Performs after ({ attachment.permit with reserved := size } :: ·)

namespace SendLaw

variable {requestId : UInt64} {before after : SignalCore} {status : SignalStatus}

theorem of_failed (failed : status ≠ .ok)
    (same : after.attachments = before.attachments ∧ after.commands = before.commands)
    (performs : before.Performs after id) : SendLaw requestId before status after where
  failed _ := ⟨same.1, same.2, performs⟩
  queued accepted := absurd accepted failed

theorem unchanged (failed : status ≠ .ok) : SendLaw requestId before status before :=
  of_failed failed ⟨rfl, rfl⟩ fun _ _ _ => ⟨[], [], rfl⟩

end SendLaw

namespace SignalCore

variable {core : SignalCore} {requestId : UInt64} {group : Bool} {checked : CheckedAttachment}

variable {permit : AttachmentPermit} {attachments : AttachmentAdmission}
  {controls : AttachmentControls} {size : UInt64}

theorem step_tryReserve
    (reserved : core.attachments.tryReserve core.controls requestId size =
      (.ok permit, attachments, controls))
    (maximumBytes : UInt64) (maximumAttachments : Nat) (permits : List LivePermit) :
    (AdmissionRun.machine maximumBytes maximumAttachments).step (core.admissionRun permits)
        (.tryReserve requestId size) =
      some ({ admission := attachments, controls,
              permits := { permit with reserved := size } :: permits }, []) := by
  simp only [AdmissionRun.machine, AdmissionRun.step, AdmissionRun.tryReserve, admissionRun,
    reserved]

theorem performs_reserve_drop
    (reserved : core.attachments.tryReserve core.controls requestId size =
      (.ok permit, attachments, controls)) :
    core.Performs
      { core with attachments := attachments.release permit.requestId, controls } id := by
  intro maximumBytes maximumAttachments permits
  obtain ⟨observed, dropped⟩ := AdmissionRun.step_drop_latest attachments controls
    { permit with reserved := size } permits
  refine ⟨[.tryReserve requestId size, .drop { permit with reserved := size }], observed, ?_⟩
  rw [Machine.runFrom_cons_of_step _ (step_tryReserve reserved _ _ permits),
    Machine.runFrom_singleton _ dropped]
  rfl

theorem queueAttachment_cases (core : SignalCore) (requestId : UInt64) (group : Bool)
    (checked : CheckedAttachment) :
    (∃ status, status ≠ .ok ∧
      core.queueAttachment requestId group checked = (status, core)) ∨
    core.attachments.Admits requestId checked.size ∧
      ((∃ status, status ≠ .ok ∧ core.queueAttachment requestId group checked =
        (status, { core with controls := core.controls.new.2 })) ∨
      core.queueAttachment requestId group checked =
        (.ok, { core with
          attachments :=
            core.attachments.reserved requestId checked.size core.controls.next
          controls := core.controls.new.2
          commands := core.commands.send (.sendAttachment
            (checked.command requestId group
              { requestId, control := core.controls.next })) })) := by
  unfold queueAttachment
  rcases core.attachments.tryReserve_cases core.controls requestId checked.size with
    ⟨error, refused⟩ | ⟨admits, reserved⟩
  · left
    rw [refused]
    cases error with
    | invalid => exact ⟨.invalidArgument, SignalStatus.noConfusion, rfl⟩
    | capacity => exact ⟨.queueFull, SignalStatus.noConfusion, rfl⟩
  · right
    refine ⟨admits, ?_⟩
    rw [reserved]
    dsimp only
    rw [AttachmentAdmission.release_reserved admits]
    cases core.commands.tryReserve with
    | error error =>
        left
        cases error with
        | full => exact ⟨.queueFull, SignalStatus.noConfusion, rfl⟩
        | closed => exact ⟨.internalError, SignalStatus.noConfusion, rfl⟩
    | ok slot => exact .inr rfl

theorem sendLaw_queueAttachment (core : SignalCore) (requestId : UInt64) (group : Bool)
    (checked : CheckedAttachment) :
    SendLaw requestId core (core.queueAttachment requestId group checked).1
      (core.queueAttachment requestId group checked).2 := by
  rcases core.queueAttachment_cases requestId group checked with
    ⟨status, failed, refused⟩ | ⟨admits, ⟨status, failed, dropped⟩ | queued⟩
  · rw [refused]
    exact SendLaw.unchanged failed
  · rw [dropped]
    refine SendLaw.of_failed failed ⟨rfl, rfl⟩ ?_
    have performs := performs_reserve_drop (admits.tryReserve core.controls)
    rwa [AttachmentAdmission.release_reserved admits] at performs
  · rw [queued]
    refine ⟨fun failed => absurd rfl failed, fun _ =>
      ⟨checked.command requestId group { requestId, control := core.controls.next },
        checked.size, ?_, ?_⟩⟩
    · exact ⟨⟨rfl, rfl⟩, admits.fresh, rfl, rfl⟩
    · intro maximumBytes maximumAttachments permits
      exact ⟨[.tryReserve requestId checked.size], [], Machine.runFrom_singleton _
        (step_tryReserve (admits.tryReserve core.controls) _ _ permits)⟩

end SignalCore

/-! ## Every call -/

def FailsProperly {α : Type} (result : Except SignalStatus α) : Prop := result ≠ .error .ok

namespace FailsProperly

theorem ok {α : Type} (value : α) : FailsProperly (.ok value) := by
  intro failed
  cases failed

theorem error {α : Type} {status : SignalStatus} (failure : status ≠ .ok) :
    FailsProperly (.error status : Except SignalStatus α) := by
  intro failed
  cases failed
  exact failure rfl

theorem bind {α β : Type} {result : Except SignalStatus α} {next : α → Except SignalStatus β}
    (first : FailsProperly result) (later : ∀ value, FailsProperly (next value)) :
    FailsProperly (result >>= next) := by
  cases result with
  | error status =>
      intro failed
      cases failed
      exact first rfl
  | ok value => exact later value

theorem demand {condition : Bool} {status : SignalStatus} (failure : status ≠ .ok) :
    FailsProperly (SignalPurple.demand condition status) := by
  cases condition with
  | true => exact ok ()
  | false => exact error failure

theorem orInvalid {α : Type} (value : Option α) : FailsProperly (SignalPurple.orInvalid value) := by
  cases value with
  | none => exact error SignalStatus.noConfusion
  | some value => exact ok value

theorem requiredString (value : CharPointer) (maximumBytes : Nat) :
    FailsProperly (SignalPurple.requiredString value maximumBytes) := by
  apply (orInvalid value).bind
  intro bytes
  apply (demand SignalStatus.noConfusion).bind
  intro _
  exact orInvalid _

theorem attachmentInput (input : AttachmentInput) (ready group : Bool) :
    FailsProperly (input.check ready group) := by
  apply (orInvalid input.data).bind
  intro data
  apply (demand SignalStatus.noConfusion).bind
  intro _
  apply (demand SignalStatus.noConfusion).bind
  intro _
  apply (requiredString _ _).bind
  intro recipient
  apply (requiredString _ _).bind
  intro filename
  apply (requiredString _ _).bind
  intro contentType
  apply (demand SignalStatus.noConfusion).bind
  intro _
  exact ok _

theorem fileAttachmentInput (input : FileAttachmentInput)
    (metadata : String → Option FileMetadata) (ready group : Bool) :
    FailsProperly (input.check metadata ready group) := by
  apply (demand SignalStatus.noConfusion).bind
  intro _
  apply (demand SignalStatus.noConfusion).bind
  intro _
  apply (requiredString _ _).bind
  intro recipient
  apply (requiredString _ _).bind
  intro filename
  apply (requiredString _ _).bind
  intro contentType
  apply (requiredString _ _).bind
  intro path
  apply (orInvalid _).bind
  intro metadata
  apply (demand SignalStatus.noConfusion).bind
  intro _
  apply (demand SignalStatus.noConfusion).bind
  intro _
  apply (demand SignalStatus.noConfusion).bind
  intro _
  exact ok _

end FailsProperly

theorem SignalCore.sendLaw_queueChecked (core : SignalCore) (requestId : UInt64) (group : Bool)
    {result : Except SignalStatus CheckedAttachment} (fails : FailsProperly result) :
    SendLaw requestId core (core.queueChecked requestId group result).1
      (core.queueChecked requestId group result).2 := by
  cases result with
  | error status =>
      apply SendLaw.unchanged
      rintro rfl
      exact fails rfl
  | ok checked => exact sendLaw_queueAttachment core requestId group checked

def CallLaw (requestId : UInt64) :
    Option SignalCore → SignalStatus × Option SignalCore → Prop
  | none, result => result.1 ≠ .ok ∧ result.2 = none
  | some before, result =>
      ∃ after, result.2 = some after ∧ SendLaw requestId before result.1 after

/-- The admission table accounts for the live permits in every run of its operations, and a
call that does not succeed leaves the table and the channel as they were. -/
theorem attachment_admission_accounts :
    (∀ maximumBytes maximumAttachments labels state history,
      (AdmissionRun.machine maximumBytes maximumAttachments).run labels =
          some (state, history) →
        AdmissionLaw maximumBytes maximumAttachments state history) ∧
    (∀ core requestId input group,
      CallLaw requestId core (sendAttachment core requestId input group)) ∧
    (∀ metadata core requestId input group,
      CallLaw requestId core (sendFileAttachment metadata core requestId input group)) := by
  refine ⟨fun _ _ _ _ _ runs => admissionLaw_of_run runs, ?_, ?_⟩
  · intro core requestId input group
    cases core with
    | none => exact ⟨SignalStatus.noConfusion, rfl⟩
    | some core =>
        exact ⟨_, rfl, core.sendLaw_queueChecked requestId group
          (FailsProperly.attachmentInput input core.ready group)⟩
  · intro metadata core requestId input group
    cases core with
    | none => exact ⟨SignalStatus.noConfusion, rfl⟩
    | some core =>
        exact ⟨_, rfl, core.sendLaw_queueChecked requestId group
          (FailsProperly.fileAttachmentInput input metadata core.ready group)⟩

example : (sendAttachment (some { ready := true }) 1
    { recipient := some [97], filename := some [98], contentType := some [99],
      data := some [1, 2], dataLen := 2 } false).1 = .ok := by
  decide +kernel

/-- Two requests fill a table of ten bytes, a third is refused, the second is cancelled, the
first ends and makes room for the third. -/
def sampleAdmission : List AdmissionLabel :=
  [.tryReserve 1 4, .tryReserve 2 6, .tryReserve 3 1, .cancel 2,
    .drop { requestId := 1, control := 0, reserved := 4 }, .tryReserve 3 1]

theorem attachment_admission_accounts_sample :
    ∃ state history,
      (AdmissionRun.machine 10 2).run sampleAdmission = some (state, history) ∧
        AdmissionLaw 10 2 state history ∧ state.admission.state.bytes = 7 := by
  have defined : ((AdmissionRun.machine 10 2).run sampleAdmission).any
      (·.1.admission.state.bytes = 7) = true := by decide +kernel
  obtain ⟨⟨state, history⟩, runs, total⟩ := (Option.any_eq_true _ _).mp defined
  exact ⟨state, history, runs, attachment_admission_accounts.1 10 2 _ state history runs,
    of_decide_eq_true total⟩

end SignalPurple
