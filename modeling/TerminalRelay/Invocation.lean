import TerminalRelay.Takeover.Execution

/-! One invocation of the program, from its arguments to its exit status. -/

namespace TerminalRelay

def showRejection (patience : Nat) (rejection : CommandLine.Rejection) : Program UInt8 := do
  if rejection.isFailure then
    Program.call (.complain rejection.text)
    return 1
  else
    let _ ← printPiece patience (Text.encode rejection.text)
    let _ ← Program.call .flush
    return 0

def refuseMode (fault : Fault) : Program UInt8 := do
  note (.modeRefused fault)
  if let .usage _ := fault then
    Program.call (.complain (CommandLine.usage ++ "\n"))
  return fault.exitCode

def runMode (allowance : Allowance) (backend : Backend) (mode : Mode) : Program UInt8 := do
  match ← execute allowance backend mode with
  | .ok completion =>
    if let .relayed ending := completion then
      note (.sessionOver ending)
    return 0
  | .error fault =>
    reportFailure backend fault
    return fault.exitCode

/-- Runs the program on its arguments, program name first. -/
def invoke (allowance : Allowance) (backend : Backend) (arguments : List Bytes) :
    Program UInt8 :=
  match CommandLine.parse arguments with
  | .error rejection => showRejection allowance.patience rejection
  | .ok options => do
    Program.call (.startLog (.shownBy options.verbose))
    match options.mode with
    | .error fault => refuseMode fault
    | .ok mode => runMode allowance backend mode

end TerminalRelay
