import TerminalRelay.CommandLine.Mode
import TerminalRelay.Session
import TerminalRelay.Takeover.Backend
import TerminalRelay.Takeover.Printing
import TerminalRelay.Takeover.Spawn

/-! Carrying out a mode: the pty, the backend's part, and then a session or a command. -/

namespace TerminalRelay

inductive Completion where
  | relayed (ending : Ending)
  | opened (slave : String)
  | spawned (slave : String) (child : Nat)
  deriving DecidableEq, Repr

def relayTo (allowance : Allowance) (target : Descriptor) :
    Program (Except Fault Completion) := do
  match ← runSession allowance target with
  | .error fault => return .error fault
  | .ok ending => return .ok (.relayed ending)

/-- Moves a process to a new pty and relays to that pty. -/
def executeAttach (allowance : Allowance) (backend : Backend) (pid : Pid) (forceStdio : Bool) :
    Program (Except Fault Completion) := do
  match ← backend.allocate with
  | .error fault => return .error fault
  | .ok pty =>
    note (.attaching pid pty.slave)
    match ← backend.attach pid pty.slave forceStdio with
    | .error e => return .error (.attach pid e)
    | .ok () => relayTo allowance pty.master

def executeSteal (allowance : Allowance) (backend : Backend) (pid : Pid) :
    Program (Except Fault Completion) := do
  note (.stealing pid)
  match ← backend.steal pid with
  | .error e => return .error (.steal pid e)
  | .ok session => relayTo allowance session

/-- Opens a new pty, says so, and starts the command if there is one. -/
def executeCreate (allowance : Allowance) (backend : Backend) (redirect : Bool)
    (command : List Bytes) : Program (Except Fault Completion) := do
  match ← backend.allocate with
  | .error fault => return .error fault
  | .ok pty =>
    match ← announce allowance.patience pty.slave with
    | .error failure => return .error (.io failure)
    | .ok () =>
      if command.isEmpty then return .ok (.opened pty.slave)
      else
        match ← spawn pty.slave redirect command with
        | .error fault => return .error fault
        | .ok child => return .ok (.spawned pty.slave child)

def execute (allowance : Allowance) (backend : Backend) :
    Mode → Program (Except Fault Completion)
  | .attach pid forceStdio => executeAttach allowance backend pid forceStdio
  | .steal pid => executeSteal allowance backend pid
  | .create redirect command => executeCreate allowance backend redirect command

/-- Logs a failed run, with the backend's explanation if permission was refused. -/
def reportFailure (backend : Backend) (fault : Fault) : Program Unit := do
  note (.failed fault)
  if fault.isPermissionDenied then backend.explain

end TerminalRelay
