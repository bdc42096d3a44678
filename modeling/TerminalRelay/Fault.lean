import TerminalRelay.IoFailure
import TerminalRelay.Pid
import TerminalRelay.Text.Quoted

/-! Everything that can stop the program before or around a session. How a session itself
ends is no fault. -/

namespace TerminalRelay

inductive Fault where
  | usage (text : String)
  | invalidPid (input : String) (reason : PidFault)
  | openMaster (e : Errno)
  | unlockPty (e : Errno)
  | grantPty (e : Errno)
  | slaveName (e : Errno)
  | closeOnExec (e : Errno)
  | attach (pid : Pid) (e : Errno)
  | steal (pid : Pid) (e : Errno)
  | spawn (program : String) (failure : IoFailure)
  | rawMode (e : Errno)
  | restoreTerminal (e : Errno)
  | signalMask (e : Errno)
  | signalHandler (failure : IoFailure)
  | io (failure : IoFailure)
  deriving DecidableEq

namespace Fault

def message : Fault → String
  | usage text => text
  | invalidPid input reason =>
    "Invalid pid " ++ String.ofList (Text.quote input.toList) ++ ": " ++ reason.message
  | openMaster e => "Unable to allocate a new pseudo-terminal: " ++ e.message
  | unlockPty e => "Unable to unlockpt: " ++ e.message
  | grantPty e => "Unable to grantpt: " ++ e.message
  | slaveName e => "Unable to get pty slave name: " ++ e.message
  | closeOnExec e => "Unable to mark pty master close-on-exec: " ++ e.message
  | attach pid e => "Unable to attach to pid " ++ toString pid ++ ": " ++ e.description
  | steal pid e =>
    "Unable to steal the terminal session of pid " ++ toString pid ++ ": " ++ e.description
  | spawn program failure => "Unable to spawn " ++ program ++ ": " ++ failure.message
  | rawMode e => "Unable to set terminal attributes: " ++ e.message
  | restoreTerminal e => "Unable to restore terminal attributes: " ++ e.message
  | signalMask e => "Unable to block SIGWINCH: " ++ e.message
  | signalHandler failure => "Unable to install SIGWINCH handler: " ++ failure.message
  | io failure => "I/O error: " ++ failure.message

def cause? : Fault → Option String
  | usage _ => none
  | invalidPid _ reason => some reason.message
  | openMaster e | unlockPty e | grantPty e | slaveName e | closeOnExec e => some e.message
  | attach _ e | steal _ e => some e.message
  | rawMode e | restoreTerminal e | signalMask e => some e.message
  | spawn _ failure | signalHandler failure | io failure => some failure.message

def exitCode (_ : Fault) : UInt8 :=
  1

/-- Whether the system refused a takeover for want of permission, so that an explanation
is worth giving. -/
def isPermissionDenied : Fault → Bool
  | attach _ e | steal _ e => e = .notPermitted
  | _ => false

end Fault
end TerminalRelay
