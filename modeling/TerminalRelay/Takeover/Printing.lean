import TerminalRelay.Program.Basic

/-! Printing for the user, completely or not at all successfully. -/

namespace TerminalRelay

/-- Prints a piece of text until all of it is taken, in at most `patience` offers. An
offer of which nothing is taken is a failure, an interruption is not. -/
def printPiece : Nat → Bytes → Program (Except IoFailure Unit)
  | _, [] => .done (.ok ())
  | 0, _ :: _ => .unfinished
  | patience + 1, text => do
    match ← .call (.print text) with
    | .ok 0 => return .error (.worded .writeZero "failed to write whole buffer")
    | .ok taken => printPiece patience (text.drop taken)
    | .error failure =>
      if failure.isInterruption then printPiece patience text else return .error failure

def printPieces (patience : Nat) : List String → Program (Except IoFailure Unit)
  | [] => .done (.ok ())
  | piece :: rest => do
    match ← printPiece patience (Text.encode piece) with
    | .error failure => return .error failure
    | .ok () => printPieces patience rest

def announce (patience : Nat) (slave : String) : Program (Except IoFailure Unit) := do
  match ← printPieces patience ["Opened a new pty: ", slave, "\n"] with
  | .error failure => return .error failure
  | .ok () => .call .flush

end TerminalRelay
