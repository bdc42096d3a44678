import TerminalRelay.Descriptor
import TerminalRelay.Fault
import TerminalRelay.PtraceScope
import TerminalRelay.Relay.Ending
import TerminalRelay.WindowSize

/-! The lines of the log: what they report, how severe they are and which part of the
program they come from. -/

namespace TerminalRelay

inductive Level where
  | error
  | warning
  | info
  | debug
  | trace
  deriving DecidableEq, Repr

namespace Level

def rank : Level → Nat
  | error => 1
  | warning => 2
  | info => 3
  | debug => 4
  | trace => 5

def name : Level → String
  | error => "ERROR"
  | warning => "WARN"
  | info => "INFO"
  | debug => "DEBUG"
  | trace => "TRACE"

def shownBy (verbose : Bool) : Level :=
  if verbose then debug else warning

end Level

inductive Notice where
  | allocated (slave : String)
  | attaching (pid : Pid) (slave : String)
  | stealing (pid : Pid)
  | wouldAttach (pid : Pid) (slave : String) (forceStdio : Bool)
  | failed (fault : Fault)
  | explained (scope : Option Nat)
  | spawned (program : Bytes) (child : Nat)
  | attributesUnreadable (e : Errno)
  | rawMode (isRaw : Bool)
  | restoreFailed (fault : Fault)
  | sizeUnreadable (e : Errno)
  | resized (size : WindowSize)
  | resizeFailed (e : Errno)
  | maskNotRestored (e : Errno)
  | watcherFailed (fault : Fault)
  | waitFailed (e : Errno)
  | readFailed (e : Errno)
  | dropped (sink : Descriptor) (count : Nat) (e : Errno)
  | relayEnded (ending : Ending)
  | modeRefused (fault : Fault)
  | sessionOver (ending : Ending)
  deriving DecidableEq

namespace Notice

def level : Notice → Level
  | failed _ | explained _ | restoreFailed _ | watcherFailed _ | modeRefused _ => .error
  | attributesUnreadable _ | resizeFailed _ | maskNotRestored _ | waitFailed _
  | dropped _ _ _ => .warning
  | allocated _ | attaching _ _ | stealing _ | wouldAttach _ _ _ | spawned _ _ | rawMode _
  | sizeUnreadable _ | resized _ | readFailed _ | relayEnded _ | sessionOver _ => .debug

def origin : Notice → String
  | allocated _ => "reptyr::pty::unix"
  | attaching _ _ | stealing _ | failed _ => "reptyr::attach"
  | wouldAttach _ _ _ | explained _ => "reptyr::attach::backend"
  | spawned _ _ => "reptyr::attach::spawn"
  | attributesUnreadable _ | restoreFailed _ => "reptyr::relay::raw_mode"
  | sizeUnreadable _ | resized _ | resizeFailed _ | maskNotRestored _ => "reptyr::relay::resize"
  | rawMode _ | watcherFailed _ | waitFailed _ | readFailed _ | dropped _ _ _
  | relayEnded _ => "reptyr::relay"
  | modeRefused _ | sessionOver _ => "reptyr"

def text : Notice → String
  | allocated slave => "Allocated pty, slave at " ++ slave
  | attaching pid slave => "Attaching pid " ++ toString pid ++ " to " ++ slave
  | stealing pid => "Stealing the terminal session of pid " ++ toString pid
  | wouldAttach pid slave forceStdio =>
    "Would attach pid " ++ toString pid ++ " to " ++ slave ++ " (force_stdio=" ++
      toString forceStdio ++ ")"
  | failed fault | restoreFailed fault | watcherFailed fault | modeRefused fault => fault.message
  | explained scope => PtraceScope.hint scope
  | spawned program child =>
    "Spawned " ++ String.ofList (Text.quoteBytes program) ++ " as pid " ++ toString child
  | attributesUnreadable e => "Unable to read terminal attributes: " ++ e.message
  | rawMode isRaw => "Terminal in raw mode: " ++ toString isRaw
  | sizeUnreadable e => "Unable to read terminal size (" ++ e.message ++ "), using fallback"
  | resized size =>
    "Resized target to " ++ toString size.columns ++ "x" ++ toString size.rows
  | resizeFailed e => "Cannot set terminal size: " ++ e.message
  | maskNotRestored e => "Unable to restore signal mask: " ++ e.message
  | waitFailed e => "Wait failed: " ++ e.message
  | readFailed e => "Read failed: " ++ e.message
  | dropped _ count e => "Dropped " ++ toString count ++ " bytes: " ++ e.message
  | relayEnded ending => "Relay ended: " ++ ending.describe
  | sessionOver ending => "Session over: " ++ ending.describe

/-- Whether the line is shown when `level` is the least severe level shown. -/
def isShownAt (notice : Notice) (level : Level) : Bool :=
  notice.level.rank ≤ level.rank

def line (notice : Notice) : String :=
  notice.level.name ++ " " ++ notice.text

end Notice
end TerminalRelay
