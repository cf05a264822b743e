import Mathlib.Algebra.Order.Ring.Nat
import Mathlib.Data.List.Basic

/-! # Backend events

The events the Rust core hands to the libpurple adapter, with the constructors
`event.rs` gives to errors. Numeric kinds are part of the ABI, so they are kept
beside the enumeration.
-/

namespace SignalPurple

def abiVersion : Nat := 7

inductive EventKind where
  | linkQr
  | ready
  | contact
  | group
  | message
  | groupMessage
  | typing
  | receipt
  | noticeReserved
  | error
  | disconnected
  | contactSyncBegin
  | contactSyncEnd
  | groupSyncBegin
  | groupSyncEnd
  | groupMember
  | identityChange
  | identityAccepted
  | attachment
  | attachmentSent
  | groupLeft
  | recovering
  | account
  | sessionReset
  | avatar
  deriving DecidableEq, Repr

namespace EventKind

/-- The value of the kind in the shared ABI header. -/
def code : EventKind → Nat
  | linkQr => 1
  | ready => 2
  | contact => 3
  | group => 4
  | message => 5
  | groupMessage => 6
  | typing => 7
  | receipt => 8
  | noticeReserved => 9
  | error => 10
  | disconnected => 11
  | contactSyncBegin => 12
  | contactSyncEnd => 13
  | groupSyncBegin => 14
  | groupSyncEnd => 15
  | groupMember => 16
  | identityChange => 17
  | identityAccepted => 18
  | attachment => 19
  | attachmentSent => 20
  | groupLeft => 21
  | recovering => 22
  | account => 23
  | sessionReset => 24
  | avatar => 25

end EventKind

def flagOutgoing : UInt32 := 1
def flagFatal : UInt32 := 2
def flagTransient : UInt32 := 4

/-- A Rust byte vector, whose length always fits a pointer-sized offset. -/
structure Bytes where
  toList : List UInt8
  fits : toList.length < 2 ^ 63
  deriving DecidableEq

namespace Bytes

def empty : Bytes := ⟨[], by decide⟩

def length (bytes : Bytes) : Nat := bytes.toList.length

def truncate (bytes : Bytes) (size : Nat) : Bytes where
  toList := bytes.toList.take size
  fits := Nat.lt_of_le_of_lt (List.length_take_le' _ _) bytes.fits

/-- The length as the `usize` that the code computes with. -/
def size (bytes : Bytes) : UInt64 := UInt64.ofNat bytes.length

theorem toNat_size (bytes : Bytes) : bytes.size.toNat = bytes.length := by
  refine UInt64.toNat_ofNat_of_lt ?_
  have fits := bytes.fits
  simp only [length, UInt64.size]
  omega

end Bytes

structure Event where
  kind : EventKind
  flags : UInt32 := 0
  requestId : UInt64 := 0
  timestampMs : UInt64 := 0
  value : Int := 0
  peerId : Option String := none
  chatId : Option String := none
  title : Option String := none
  text : Option String := none
  data : Bytes := Bytes.empty
  deriving DecidableEq

namespace Event

def error (message : String) (fatal : Bool) : Event where
  kind := .error
  flags := if fatal then flagFatal else 0
  title := some (if fatal then "Signal backend stopped" else "Signal operation failed")
  text := some message

def requestError (requestId : UInt64) (message : String) : Event :=
  { error message false with requestId }

def transientError (message : String) : Event :=
  { error message false with flags := flagTransient }

def transientRequestError (requestId : UInt64) (message : String) : Event :=
  { requestError requestId message with flags := flagTransient }

def groupRequestError (requestId : UInt64) (chatId message : String) : Event :=
  { error message false with requestId, chatId := some chatId }

def hasFlag (event : Event) (flag : UInt32) : Bool := event.flags &&& flag != 0

end Event

end SignalPurple
