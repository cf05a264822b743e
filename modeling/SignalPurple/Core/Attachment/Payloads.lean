import Mathlib.Algebra.Order.BigOperators.Group.List
import SignalPurple.Core.Attachment.Ffi

/-! # The bytes of outgoing attachments

A permit reserves as many bytes as the attachment has when it is admitted. An attachment that
comes with its bytes holds them from then on. One that names a file holds nothing until its
upload reads the file, whatever the file has become by then.
-/

namespace SignalPurple

structure AdmittedPayload where
  permit : LivePermit
  payload : AttachmentPayload
  /-- What the upload has read from the file. -/
  buffer : List UInt8 := []
  deriving DecidableEq

/-- The payload bytes in memory. -/
def AdmittedPayload.bytes (admitted : AdmittedPayload) : List UInt8 :=
  match admitted.payload with
  | .data bytes => bytes
  | .path _ => admitted.buffer

def AdmittedPayload.held (admitted : AdmittedPayload) : Nat := admitted.bytes.length

structure PayloadRun where
  admissions : AdmissionRun := { admission := .new }
  payloads : List AdmittedPayload := []

/-- How the surroundings answer a call: whether the core is ready, and whether the command
channel has a place. -/
structure SendMoment where
  ready : Bool := true
  channelOpen : Bool := true

inductive PayloadLabel where
  | sendAttachment (moment : SendMoment) (requestId : UInt64) (input : AttachmentInput)
      (group : Bool)
  | sendFileAttachment (moment : SendMoment) (metadata : String → Option FileMetadata)
      (requestId : UInt64) (input : FileAttachmentInput) (group : Bool)
  /-- `upload_and_send_attachment` has read the file. -/
  | readFile (permit : LivePermit) (content : Except String (List UInt8))
  /-- `upload_and_send_attachment` looks at the size. -/
  | checkSize (permit : LivePermit)
  /-- The upload is done with the bytes. -/
  | uploaded (permit : LivePermit)
  | dropPermit (permit : LivePermit)

inductive PayloadEntry where
  | failed (requestId : UInt64) (error : String)
  deriving DecidableEq

namespace PayloadRun

/-- The two reservations of an attachment whose arguments were found good. A permit that finds
no place in the channel is dropped at once. -/
def queue (run : PayloadRun) (moment : SendMoment) (requestId : UInt64)
    (checked : CheckedAttachment) : PayloadRun :=
  match run.admissions.admission.tryReserve run.admissions.controls requestId checked.size with
  | (.error _, _, _) => run
  | (.ok permit, admission, controls) =>
      let live : LivePermit := { permit with reserved := checked.size }
      let admissions : AdmissionRun :=
        { admission, controls, permits := live :: run.admissions.permits }
      if moment.channelOpen then
        { admissions, payloads := { permit := live, payload := checked.data } :: run.payloads }
      else { run with admissions := (admissions.drop live).1 }

def queueChecked (run : PayloadRun) (moment : SendMoment) (requestId : UInt64) :
    Except SignalStatus CheckedAttachment → PayloadRun
  | .error _ => run
  | .ok checked => run.queue moment requestId checked

def change (run : PayloadRun) (permit : LivePermit)
    (update : AdmittedPayload → AdmittedPayload) : PayloadRun :=
  { run with
    payloads := run.payloads.map fun admitted =>
      if admitted.permit = permit then update admitted else admitted }

def letGo (admitted : AdmittedPayload) : AdmittedPayload :=
  match admitted.payload with
  | .data _ => { admitted with payload := .data [] }
  | .path _ => { admitted with buffer := [] }

/-- The whole file is read into memory; attachments that brought their bytes name no file. -/
def fill (content : List UInt8) (admitted : AdmittedPayload) : AdmittedPayload :=
  match admitted.payload with
  | .data _ => admitted
  | .path _ => { admitted with buffer := content }

def sizeOutOfRange (bytes : List UInt8) : Bool :=
  bytes.isEmpty || decide (maxAttachmentBytes.toNat < bytes.length)

def step (run : PayloadRun) : PayloadLabel → Option (PayloadRun × List PayloadEntry)
  | .sendAttachment moment requestId input group =>
      some (run.queueChecked moment requestId (input.check moment.ready group), [])
  | .sendFileAttachment moment metadata requestId input group =>
      some (run.queueChecked moment requestId (input.check metadata moment.ready group), [])
  | .readFile permit (.ok content) => some (run.change permit (fill content), [])
  | .readFile permit (.error error) =>
      some (run, [.failed permit.requestId ("Could not read attachment file: " ++ error)])
  | .checkSize permit =>
      if run.payloads.any fun admitted =>
          admitted.permit = permit && sizeOutOfRange admitted.bytes then
        some (run.change permit letGo,
          [.failed permit.requestId "Attachment size is outside the supported range"])
      else some (run, [])
  | .uploaded permit => some (run.change permit letGo, [])
  | .dropPermit permit =>
      if permit ∈ run.admissions.permits then
        some ({ admissions := (run.admissions.drop permit).1
                payloads := run.payloads.eraseP (·.permit = permit) }, [])
      else none

def machine : Machine PayloadRun PayloadLabel PayloadEntry where
  initial := {}
  step := step

/-! ## What is held -/

/-- Each attachment holds at most what it reserved, all of them at most 50 MiB, and no file is
read further than a byte past 25 MiB. -/
structure PayloadLaw (run : PayloadRun) : Prop where
  within : ∀ admitted ∈ run.payloads, admitted.held ≤ admitted.permit.reserved.toNat
  total : (run.payloads.map (·.held)).sum ≤ maxAdmittedOutgoingAttachmentBytes.toNat
  stops : ∀ admitted ∈ run.payloads, admitted.buffer.length ≤ maxAttachmentBytes.toNat + 1

/-- A file is not longer when its upload reads it than it was when it was admitted. -/
def NotGrown (_ : PayloadRun) : PayloadLabel → Prop
  | .readFile permit (.ok content) => content.length ≤ permit.reserved.toNat
  | _ => True

variable {run next : PayloadRun} {admitted : AdmittedPayload}

structure Covered (admitted : AdmittedPayload) : Prop where
  given : ∀ bytes, admitted.payload = .data bytes →
    bytes.length ≤ admitted.permit.reserved.toNat
  read : admitted.buffer.length ≤ admitted.permit.reserved.toNat

theorem Covered.held (covered : Covered admitted) :
    admitted.held ≤ admitted.permit.reserved.toNat := by
  unfold AdmittedPayload.held AdmittedPayload.bytes
  split
  next bytes isData => exact covered.given bytes isData
  next => exact covered.read

structure Holds (run : PayloadRun) : Prop where
  accounted : Accounted maxAdmittedOutgoingAttachmentBytes maxAdmittedOutgoingAttachments
    run.admissions
  owned : run.payloads.map (·.permit) = run.admissions.permits
  covered : ∀ admitted ∈ run.payloads, Covered admitted
  bounded : ∀ permit ∈ run.admissions.permits, permit.reserved ≤ maxAttachmentBytes

def Fits (checked : CheckedAttachment) : Prop :=
  ∀ bytes, checked.data = .data bytes → bytes.length ≤ checked.size.toNat

theorem exists_of_bind_eq_ok {α β : Type} {first : Except SignalStatus α}
    {rest : α → Except SignalStatus β} {result : β} (passes : first >>= rest = .ok result) :
    ∃ value, first = .ok value ∧ rest value = .ok result := by
  cases first with
  | error status => cases passes
  | ok value => exact ⟨value, rfl, passes⟩

theorem fits_of_check {input : AttachmentInput} {ready group : Bool} {checked : CheckedAttachment}
    (passes : input.check ready group = .ok checked) : Fits checked := by
  obtain ⟨data, _, passes⟩ := exists_of_bind_eq_ok passes
  obtain ⟨_, _, passes⟩ := exists_of_bind_eq_ok passes
  obtain ⟨_, _, passes⟩ := exists_of_bind_eq_ok passes
  obtain ⟨recipient, _, passes⟩ := exists_of_bind_eq_ok passes
  obtain ⟨filename, _, passes⟩ := exists_of_bind_eq_ok passes
  obtain ⟨contentType, _, passes⟩ := exists_of_bind_eq_ok passes
  obtain ⟨_, _, passes⟩ := exists_of_bind_eq_ok passes
  cases passes
  rintro bytes ⟨⟩
  exact List.length_take_le _ _

theorem fits_of_checkFile {input : FileAttachmentInput} {metadata : String → Option FileMetadata}
    {ready group : Bool} {checked : CheckedAttachment}
    (passes : input.check metadata ready group = .ok checked) : Fits checked := by
  obtain ⟨_, _, passes⟩ := exists_of_bind_eq_ok passes
  obtain ⟨_, _, passes⟩ := exists_of_bind_eq_ok passes
  obtain ⟨recipient, _, passes⟩ := exists_of_bind_eq_ok passes
  obtain ⟨filename, _, passes⟩ := exists_of_bind_eq_ok passes
  obtain ⟨contentType, _, passes⟩ := exists_of_bind_eq_ok passes
  obtain ⟨path, _, passes⟩ := exists_of_bind_eq_ok passes
  obtain ⟨found, _, passes⟩ := exists_of_bind_eq_ok passes
  obtain ⟨_, _, passes⟩ := exists_of_bind_eq_ok passes
  obtain ⟨_, _, passes⟩ := exists_of_bind_eq_ok passes
  obtain ⟨_, _, passes⟩ := exists_of_bind_eq_ok passes
  cases passes
  rintro bytes ⟨⟩

namespace Holds

theorem queue (holds : Holds run) (moment : SendMoment) (requestId : UInt64)
    {checked : CheckedAttachment} (fits : Fits checked) :
    Holds (run.queue moment requestId checked) := by
  unfold PayloadRun.queue
  rcases run.admissions.admission.tryReserve_cases run.admissions.controls requestId checked.size
    with ⟨error, refused⟩ | ⟨admits, reserved⟩
  · rw [refused]
    exact holds
  · rw [reserved]
    have accounted := holds.accounted.reserve admits
    dsimp only
    split
    · refine ⟨accounted, ?_, ?_, ?_⟩
      · rw [List.map_cons, holds.owned]
      · refine List.forall_mem_cons.mpr ⟨⟨fits, ?_⟩, holds.covered⟩
        exact Nat.zero_le _
      · exact List.forall_mem_cons.mpr ⟨admits.bounded, holds.bounded⟩
    · refine ⟨accounted.drop List.mem_cons_self, ?_, holds.covered, ?_⟩
      · rw [AdmissionRun.drop, List.erase_cons_head, holds.owned]
      · rw [AdmissionRun.drop, List.erase_cons_head]
        exact holds.bounded

theorem change (holds : Holds run) (permit : LivePermit)
    {update : AdmittedPayload → AdmittedPayload}
    (samePermit : ∀ admitted, (update admitted).permit = admitted.permit)
    (covered : ∀ admitted, admitted.permit = permit → Covered admitted →
      Covered (update admitted)) :
    Holds (run.change permit update) where
  accounted := holds.accounted
  owned := by
    refine Eq.trans ?_ holds.owned
    rw [PayloadRun.change, List.map_map]
    apply List.map_congr_left
    intro admitted _
    simp only [Function.comp_apply]
    split
    · exact samePermit admitted
    · rfl
  covered := by
    intro changed member
    rcases List.mem_map.mp member with ⟨admitted, before, rfl⟩
    split
    next isIt => exact covered admitted isIt (holds.covered admitted before)
    next => exact holds.covered admitted before
  bounded := holds.bounded

theorem letGo (holds : Holds run) (permit : LivePermit) :
    Holds (run.change permit PayloadRun.letGo) := by
  apply holds.change
  · intro admitted
    unfold PayloadRun.letGo
    split <;> rfl
  · intro admitted _ covered
    unfold PayloadRun.letGo
    split
    · refine ⟨?_, covered.read⟩
      rintro bytes ⟨⟩
      exact Nat.zero_le _
    · exact ⟨covered.given, Nat.zero_le _⟩

theorem dropPermit (holds : Holds run) {permit : LivePermit}
    (live : permit ∈ run.admissions.permits) :
    Holds { admissions := (run.admissions.drop permit).1
            payloads := run.payloads.eraseP (·.permit = permit) } where
  accounted := holds.accounted.drop live
  owned := by
    have same : (fun admitted : AdmittedPayload => decide (admitted.permit = permit)) =
        (permit == ·) ∘ (·.permit) := by
      funext admitted
      rw [Function.comp_apply, beq_eq_decide]
      exact decide_eq_decide.mpr eq_comm
    have erased : (run.payloads.eraseP (·.permit = permit)).map (·.permit) =
        (run.payloads.map (·.permit)).erase permit := by
      rw [List.erase_eq_eraseP, List.eraseP_map, same]
    rw [holds.owned] at erased
    exact erased
  covered admitted member := holds.covered admitted (List.mem_of_mem_eraseP member)
  bounded other member := holds.bounded other (List.mem_of_mem_erase member)

theorem readFile (holds : Holds run) {permit : LivePermit} {content : List UInt8}
    (notGrown : content.length ≤ permit.reserved.toNat) :
    Holds (run.change permit (fill content)) := by
  apply holds.change
  · intro admitted
    unfold fill
    split <;> rfl
  · rintro admitted rfl covered
    unfold fill
    split
    · exact covered
    · exact ⟨covered.given, notGrown⟩

theorem queueChecked (holds : Holds run) (moment : SendMoment) (requestId : UInt64)
    {checked : Except SignalStatus CheckedAttachment}
    (fits : ∀ attachment, checked = .ok attachment → Fits attachment) :
    Holds (run.queueChecked moment requestId checked) := by
  cases checked with
  | error status => exact holds
  | ok attachment => exact holds.queue moment requestId (fits attachment rfl)

theorem step (holds : Holds run) {label : PayloadLabel} {entries : List PayloadEntry}
    (notGrown : run.NotGrown label) (stepped : run.step label = some (next, entries)) :
    Holds next := by
  cases label with
  | sendAttachment moment requestId input group =>
      obtain ⟨rfl, rfl⟩ := Machine.reached_of_some stepped
      exact holds.queueChecked moment requestId fun _ => fits_of_check
  | sendFileAttachment moment metadata requestId input group =>
      obtain ⟨rfl, rfl⟩ := Machine.reached_of_some stepped
      exact holds.queueChecked moment requestId fun _ => fits_of_checkFile
  | readFile permit result =>
      cases result with
      | ok content =>
          obtain ⟨rfl, rfl⟩ := Machine.reached_of_some stepped
          exact holds.readFile notGrown
      | error error =>
          obtain ⟨rfl, rfl⟩ := Machine.reached_of_some stepped
          exact holds
  | checkSize permit =>
      simp only [PayloadRun.step] at stepped
      split at stepped
      · obtain ⟨rfl, rfl⟩ := Machine.reached_of_some stepped
        exact holds.letGo permit
      · obtain ⟨rfl, rfl⟩ := Machine.reached_of_some stepped
        exact holds
  | uploaded permit =>
      obtain ⟨rfl, rfl⟩ := Machine.reached_of_some stepped
      exact holds.letGo permit
  | dropPermit permit =>
      simp only [PayloadRun.step, Option.ite_none_right_eq_some] at stepped
      obtain ⟨rfl, rfl⟩ := Machine.reached_of_some stepped.2
      exact holds.dropPermit stepped.1

theorem law (holds : Holds run) : PayloadLaw run where
  within admitted member := (holds.covered admitted member).held
  total := by
    have reserved : (run.payloads.map (·.held)).sum ≤
        (run.payloads.map fun admitted => admitted.permit.reserved.toNat).sum := by
      apply List.sum_le_sum
      exact fun admitted member => (holds.covered admitted member).held
    have isTotal : run.admissions.admission.state.bytes.toNat =
        (run.payloads.map fun admitted => admitted.permit.reserved.toNat).sum := by
      rw [holds.accounted.total, ← holds.owned, List.map_map]
      rfl
    have limit := UInt64.le_iff_toNat_le.mp holds.accounted.withinBytes
    omega
  stops admitted member := by
    have live : admitted.permit ∈ run.admissions.permits := by
      rw [← holds.owned]
      exact List.mem_map_of_mem member
    have limit := UInt64.le_iff_toNat_le.mp (holds.bounded admitted.permit live)
    have read := (holds.covered admitted member).read
    omega

end Holds

/-- As long as no file has grown since its admission, the bounds hold. -/
theorem payloadLaw_of_run {labels : List PayloadLabel} {history : List PayloadEntry}
    (notGrown : machine.StepsMeet NotGrown machine.initial labels)
    (reached : machine.run labels = some (run, history)) : PayloadLaw run := by
  have starts : Holds machine.initial :=
    ⟨Accounted.initial, rfl, by simp [machine], by simp [machine]⟩
  have holds : Holds run := by
    refine @Machine.run_invariant_of_steps _ _ _ machine NotGrown (fun run _ => Holds run) starts
      ?_ labels run history notGrown reached
    exact fun _ _ _ _ _ holds meets stepped => holds.step meets stepped
  exact holds.law

def fileSent : List PayloadLabel :=
  let text (value : String) : CharPointer := some value.toUTF8.toList
  [.sendFileAttachment {} (fun _ => some { isFile := true, len := 1 }) 1
    { recipient := text "alice", filename := text "a", contentType := text "text/plain"
      filePath := text "/tmp/a" } false]

def filePermit : LivePermit := { requestId := 1, control := 0, reserved := 1 }

/-- Whatever the file has become, its upload holds all of it. -/
theorem holds_content (content : List UInt8) :
    ∃ run, machine.run (fileSent ++ [.readFile filePermit (.ok content)]) = some (run, []) ∧
      run.payloads = [{ permit := filePermit, payload := .path "/tmp/a", buffer := content }] := by
  have sent : (machine.run fileSent).any (fun reached => decide (reached.2 = []) &&
      decide (reached.1.payloads =
        [{ permit := filePermit, payload := .path "/tmp/a" }])) = true := by
    decide +kernel
  obtain ⟨⟨before, history⟩, reached, facts⟩ := (Option.any_eq_true _ _).mp sent
  simp only [Bool.and_eq_true, decide_eq_true_eq] at facts
  obtain ⟨rfl, isSent⟩ := facts
  refine ⟨before.change filePermit (fill content), ?_, ?_⟩
  · exact (Machine.runFrom_append_eq_some _).mpr
      ⟨before, [], [], reached, Machine.runFrom_singleton _ rfl, rfl⟩
  · simp [change, isSent, fill]

theorem payloadLaw_of_fileRead :
    ∃ run history, machine.run (fileSent ++ [.readFile filePermit (.ok [7])]) =
      some (run, history) ∧ PayloadLaw run := by
  have notGrown : machine.StepsMeet NotGrown machine.initial
      (fileSent ++ [.readFile filePermit (.ok [7])]) :=
    ⟨trivial, fun _ _ _ => ⟨Nat.le_refl 1, fun _ _ _ => trivial⟩⟩
  obtain ⟨run, reached, _⟩ := holds_content [7]
  exact ⟨run, [], reached, payloadLaw_of_run notGrown reached⟩

/-- The file has grown to more than 50 MiB since it was admitted with one byte. -/
theorem grown_file_exceeds_limits :
    ∃ run, machine.run (fileSent ++
        [.readFile filePermit (.ok (List.replicate (50 * 1024 * 1024 + 1) 0))]) =
          some (run, []) ∧
      (∃ admitted ∈ run.payloads, admitted.permit.reserved = 1 ∧
        admitted.held = 50 * 1024 * 1024 + 1) ∧
      maxAdmittedOutgoingAttachmentBytes.toNat < (run.payloads.map (·.held)).sum := by
  obtain ⟨run, reached, payloads⟩ := holds_content (List.replicate (50 * 1024 * 1024 + 1) 0)
  refine ⟨run, reached, ?_, ?_⟩
  · rw [payloads]
    exact ⟨_, List.mem_singleton_self _, rfl, List.length_replicate⟩
  · rw [payloads, List.map_singleton, List.sum_singleton]
    have held : AdmittedPayload.held
        ⟨filePermit, .path "/tmp/a", List.replicate (50 * 1024 * 1024 + 1) 0⟩ =
          50 * 1024 * 1024 + 1 :=
      List.length_replicate
    rw [held]
    decide

end PayloadRun

end SignalPurple
