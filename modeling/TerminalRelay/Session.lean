import TerminalRelay.Relay.Rounds
import TerminalRelay.Terminal.RawMode

/-! A whole session against a far side: raw mode on, the size kept in step, the relay, and
the terminal put back however the relay ended. -/

namespace TerminalRelay

/-- How long a session may go on: the rounds of its relay, and the attempts at one write
or one restoration. -/
structure Allowance where
  rounds : Nat
  patience : Nat
  deriving DecidableEq, Repr

/-- Relays under an installed watcher. Without one the relay never starts. -/
def relayWatched (allowance : Allowance) (target : Descriptor) :
    Except Fault ResizeWatcher → Program Ending
  | .error fault => do
    note (.watcherFailed fault)
    return .resizeUnavailable
  | .ok watcher => do
    let ending ← relay allowance.patience target watcher allowance.rounds blankBuffer
    watcher.remove
    return ending

def relaySession (allowance : Allowance) (target : Descriptor) : Program Ending := do
  relayWatched allowance target (← ResizeWatcher.install .terminal target)

/-- Runs a session while the terminal is held, and ends the hold. -/
def runHeld (allowance : Allowance) (target : Descriptor) (held : RawMode) :
    Program (Except Fault Ending) := do
  note (.rawMode held.isRaw)
  let ending ← relaySession allowance target
  match ← held.release allowance.patience with
  | .error fault => return .error fault
  | .ok () =>
    note (.relayEnded ending)
    return .ok ending

def runSession (allowance : Allowance) (target : Descriptor) :
    Program (Except Fault Ending) := do
  match ← RawMode.acquire .terminal with
  | .error fault => return .error fault
  | .ok held => runHeld allowance target held

end TerminalRelay
