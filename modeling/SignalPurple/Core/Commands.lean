import SignalPurple.Core.Attachment.Ffi
import SignalPurple.Core.Connection

/-! # Commands across recoveries

Commands of the client wait in a channel. While the session is not ready they are taken from
it into a queue of deferred commands, except for typing notices, which are dropped. The
dispatch loop takes up the deferred commands before it turns to the channel.
-/

namespace SignalPurple

inductive WorkerCommand where
  | sendMessage (requestId : UInt64) (recipient message : String)
  | sendGroupMessage (requestId : UInt64) (groupKey message : String)
  | leaveGroup (requestId : UInt64) (groupKey : String)
  | sendAttachment (attachment : SendAttachment)
  | setTyping (requestId : UInt64) (recipient : String) (typing : Bool)
  | acceptIdentity (requestId : UInt64) (recipient : String)
  | dismissIdentity (requestId : UInt64) (recipient : String)
  | resetSession (requestId : UInt64) (recipient : String)
  | markRead (requestId : UInt64) (recipient : String) (timestamp : UInt64)
  deriving DecidableEq

def WorkerCommand.isSetTyping : WorkerCommand → Bool
  | .setTyping _ _ _ => true
  | _ => false

/-- A command that the channel has accepted, with its place in the order of submission. -/
structure Submission where
  number : Nat
  command : WorkerCommand
  deriving DecidableEq

structure CommandRun where
  connection : Connection := {}
  commands : List Submission := []
  deferredCommands : List Submission := []
  submitted : Nat := 0

inductive CommandLabel where
  | submit (command : WorkerCommand)
  /-- The branch of a `select!` that waits for a command. -/
  | command
  /-- Any other step of the connection. -/
  | connection (label : ConnectionLabel)

inductive CommandEntry where
  | accepted (submission : Submission)
  /-- A command is taken from the channel, while the session is ready or not. -/
  | received (submission : Submission) (ready : Bool)
  /-- The dispatch loop takes up a command. -/
  | executed (submission : Submission)
  deriving DecidableEq

def commandCapacity : Nat := 128

def handleRecoveryCommand (submission : Submission) (deferred : List Submission) :
    List Submission :=
  match submission.command with
  | .setTyping _ _ _ => deferred
  | _ => deferred ++ [submission]

/-- The channel is emptied; with what is deferred then comes what was seen of it. -/
def drainRecoveryCommands (ready : Bool) :
    List Submission → List Submission → List Submission × List CommandEntry
  | [], deferred => (deferred, [])
  | submission :: later, deferred =>
      let rest := drainRecoveryCommands ready later (handleRecoveryCommand submission deferred)
      (rest.1, .received submission ready :: rest.2)

namespace CommandRun

def isReady (run : CommandRun) : Bool := run.connection.session.isReady

def submit (run : CommandRun) (command : WorkerCommand) :
    Option (CommandRun × List CommandEntry) :=
  if run.connection.control = .stopped ∨ commandCapacity ≤ run.commands.length then none
  else
    let submission : Submission := { number := run.submitted, command }
    some ({ run with
      commands := run.commands ++ [submission]
      submitted := run.submitted + 1 }, [.accepted submission])

def deferCommand (run : CommandRun) : Option (CommandRun × List CommandEntry) :=
  match run.commands with
  | [] => none
  | submission :: commands =>
      some ({ run with
        commands
        deferredCommands := handleRecoveryCommand submission run.deferredCommands },
        [.received submission run.isReady])

/-- The command branch of the dispatch loop. -/
def dispatchCommand (run : CommandRun) : Option (CommandRun × List CommandEntry) :=
  if run.isReady then
    match run.deferredCommands with
    | submission :: deferredCommands =>
        some ({ run with deferredCommands }, [.executed submission])
    | [] =>
        match run.commands with
        | submission :: commands =>
            some ({ run with commands }, [.received submission true, .executed submission])
        | [] => none
  else run.deferCommand

def takeCommand (run : CommandRun) : Option (CommandRun × List CommandEntry) :=
  match run.connection.control with
  | .waitingOut => run.deferCommand
  | .connecting => if run.connection.session.isRecovering then run.deferCommand else none
  | .selecting => run.dispatchCommand
  | _ => none

/-- What a step of the connection does to the commands: a recovery begins with a drain of the
channel, and a failure for good with the refusal of all deferred commands. -/
def withCommands (run : CommandRun) (next : Connection) :
    ConnectionLabel → CommandRun × List CommandEntry
  | .restart =>
      if run.connection.session.isRecovering then
        let drained := drainRecoveryCommands run.isReady run.commands run.deferredCommands
        ({ run with connection := next, commands := [], deferredCommands := drained.1 }, drained.2)
      else ({ run with connection := next }, [])
  | .receiveStarted (.error error) =>
      if error.isTransient then ({ run with connection := next }, [])
      else ({ run with connection := next, deferredCommands := [] }, [])
  | _ => ({ run with connection := next }, [])

def step (run : CommandRun) : CommandLabel → Option (CommandRun × List CommandEntry)
  | .submit command => run.submit command
  | .command =>
      match run.connection.step .serviced, run.takeCommand with
      | some (connection, _), some (taken, entries) => some ({ taken with connection }, entries)
      | _, _ => none
  | .connection label =>
      match run.connection.step label with
      | some (next, _) => some (run.withCommands next label)
      | none => none

def machine : Machine CommandRun CommandLabel CommandEntry where
  initial := {}
  step := step

end CommandRun

end SignalPurple
