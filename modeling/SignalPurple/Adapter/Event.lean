import SignalPurple.Core.Event

/-! # Events as the adapter reads them

`SignalEvent` of the shared header: numbers as they come over the ABI, and pointers that
may be null. The core builds it from an `Event`.
-/

namespace SignalPurple

namespace EventKind

def ofCode : Nat → Option EventKind
  | 1 => some linkQr
  | 2 => some ready
  | 3 => some contact
  | 4 => some group
  | 5 => some message
  | 6 => some groupMessage
  | 7 => some typing
  | 8 => some receipt
  | 9 => some noticeReserved
  | 10 => some error
  | 11 => some disconnected
  | 12 => some contactSyncBegin
  | 13 => some contactSyncEnd
  | 14 => some groupSyncBegin
  | 15 => some groupSyncEnd
  | 16 => some groupMember
  | 17 => some identityChange
  | 18 => some identityAccepted
  | 19 => some attachment
  | 20 => some attachmentSent
  | 21 => some groupLeft
  | 22 => some recovering
  | 23 => some account
  | 24 => some sessionReset
  | 25 => some avatar
  | _ => none

@[simp] theorem ofCode_code (kind : EventKind) : ofCode kind.code = some kind := by
  cases kind <;> rfl

theorem ofCode_eq_some {code : Nat} {kind : EventKind} :
    ofCode code = some kind ↔ code = kind.code := by
  constructor
  · intro found
    unfold ofCode at found
    split at found <;> cases found <;> rfl
  · rintro rfl
    exact ofCode_code kind

end EventKind

structure SignalEvent where
  abiVersion : Nat
  structSize : Nat
  kind : Nat
  flags : UInt32 := 0
  requestId : UInt64 := 0
  timestampMs : UInt64 := 0
  value : Int := 0
  peerId : Option String := none
  chatId : Option String := none
  title : Option String := none
  text : Option String := none
  data : Option Bytes := none
  dataLen : Nat := 0
  deriving DecidableEq

/-- `sizeof(SignalEvent)` where pointers have eight bytes. -/
def signalEventSize : Nat := 88

namespace SignalEvent

def hasFlag (event : SignalEvent) (flag : UInt32) : Bool := event.flags &&& flag != 0

def isCompatible (event : SignalEvent) : Bool :=
  event.abiVersion == SignalPurple.abiVersion && decide (signalEventSize ≤ event.structSize)

/-- A string cannot hold a NUL on the other side, so it is replaced. -/
def cString (value : String) : String :=
  String.ofList (value.toList.map fun character =>
    if character = '\x00' then '�' else character)

/-- `OwnedEvent::new`: an empty payload is a null pointer. -/
def ofEvent (event : Event) : SignalEvent where
  abiVersion := SignalPurple.abiVersion
  structSize := signalEventSize
  kind := event.kind.code
  flags := event.flags
  requestId := event.requestId
  timestampMs := event.timestampMs
  value := event.value
  peerId := event.peerId.map cString
  chatId := event.chatId.map cString
  title := event.title.map cString
  text := event.text.map cString
  data := if event.data.length = 0 then none else some event.data
  dataLen := event.data.length

@[simp] theorem isCompatible_ofEvent (event : Event) : (ofEvent event).isCompatible = true := by
  simp [isCompatible, ofEvent]

theorem cString_eq_empty {value : String} : cString value = "" ↔ value = "" := by
  constructor
  · intro empty
    have noCharacters : value.toList = [] := by
      have mapped := congrArg String.toList empty
      simpa [cString] using mapped
    exact String.toList_eq_nil_iff.mp noCharacters
  · rintro rfl
    rfl

end SignalEvent

end SignalPurple
