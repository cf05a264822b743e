import Mathlib.Data.List.Basic

/-! # Session state

The phase of a connection across reconnects, what is known about the account's groups,
and the backoff between two attempts to reconnect.
-/

namespace SignalPurple

def recoveryRetryDelaysSecs : List Nat := [1, 2, 4, 8, 16, 32]

inductive SessionPhase where
  | initializing
  | recovering
  | ready
  deriving DecidableEq

inductive GroupSnapshotState where
  | pending
  | authoritative
  | dirty
  deriving DecidableEq

inductive RecoveryTransition where
  | entered
  | continued
  deriving DecidableEq

structure RecoveryBackoff where
  nextDelay : Nat := 0
  deriving DecidableEq

namespace RecoveryBackoff

/-- The delay in seconds; the last entry of the table repeats for ever. -/
def delay (backoff : RecoveryBackoff) : Nat :=
  recoveryRetryDelaysSecs.getD (min backoff.nextDelay (recoveryRetryDelaysSecs.length - 1)) 0

def advance (backoff : RecoveryBackoff) : RecoveryBackoff where
  nextDelay := backoff.nextDelay + 1

end RecoveryBackoff

structure SessionState where
  phase : SessionPhase := .initializing
  groups : GroupSnapshotState := .pending
  recoveryBackoff : RecoveryBackoff := {}
  lastRecoveryError : Option String := none
  deriving DecidableEq

namespace SessionState

def isRecovering (session : SessionState) : Bool := session.phase == .recovering

def isReady (session : SessionState) : Bool := session.phase == .ready

def groupsAuthoritative (session : SessionState) : Bool :=
  match session.groups with
  | .authoritative | .dirty => true
  | .pending => false

def groupsDirty (session : SessionState) : Bool := session.groups == .dirty

/-- Group content that arrives after a snapshot makes the snapshot stale. -/
def noteGroupContent (session : SessionState) (hasGroupContext : Bool) : SessionState :=
  if hasGroupContext && session.groups == .authoritative then
    { session with groups := .dirty }
  else session

def markGroupsAuthoritative (session : SessionState) : SessionState :=
  { session with groups := .authoritative }

def markGroupsPending (session : SessionState) : SessionState :=
  { session with groups := .pending }

def markReady (session : SessionState) : SessionState :=
  { session with phase := .ready }

def resetRecoveryBackoff (session : SessionState) : SessionState :=
  { session with recoveryBackoff := {} }

def enterRecovery (session : SessionState) (error : String) :
    SessionState × RecoveryTransition :=
  ({ session with
     phase := .recovering
     groups := .pending
     lastRecoveryError := some error },
    if session.isRecovering then .continued else .entered)

def nextRecoveryDelay (session : SessionState) : SessionState × Nat :=
  ({ session with recoveryBackoff := session.recoveryBackoff.advance },
    session.recoveryBackoff.delay)

@[simp] theorem groupsAuthoritative_noteGroupContent (session : SessionState)
    (hasGroupContext : Bool) :
    (session.noteGroupContent hasGroupContext).groupsAuthoritative =
      session.groupsAuthoritative := by
  unfold noteGroupContent
  split
  next noted =>
    simp only [Bool.and_eq_true, beq_iff_eq] at noted
    simp [groupsAuthoritative, noted.2]
  next => rfl

theorem groups_noteGroupContent_of_pending {session : SessionState} (hasGroupContext : Bool)
    (pending : session.groups = .pending) :
    session.noteGroupContent hasGroupContext = session := by
  simp [noteGroupContent, pending]

end SessionState

end SignalPurple
