import TerminalRelay.Terminal.Pty

/-! Starting a command that is told about a new pty, and not waiting for it. -/

namespace TerminalRelay

/-- Opens the slave for the standard streams of a child: once for reading, and once for
writing, shared by both outputs. -/
def openStreams (slave : String) : Program (Except IoFailure ChildStreams) := do
  match ← .call (.openSlave slave .reading) with
  | .error failure => return .error failure
  | .ok reader =>
    match ← .call (.openSlave slave .writing) with
    | .error failure => return .error failure
    | .ok writer =>
      match ← .call (.duplicate writer) with
      | .error failure => return .error failure
      | .ok copy => return .ok ⟨reader, writer, copy⟩

def streamsFor (slave : String) (redirect : Bool) :
    Program (Except IoFailure (Option ChildStreams)) := do
  if redirect then
    match ← openStreams slave with
    | .error failure => return .error failure
    | .ok streams => return .ok (some streams)
  else return .ok none

def spawn (slave : String) (redirect : Bool) : List Bytes → Program (Except Fault Nat)
  | [] => .done (.error (.usage "No command to run"))
  | program :: arguments => do
    match ← streamsFor slave redirect with
    | .error failure => return .error (.spawn (Text.display program) failure)
    | .ok streams =>
      match ← .call (.start ⟨program, arguments, slave, streams⟩) with
      | .error failure => return .error (.spawn (Text.display program) failure)
      | .ok child =>
        note (.spawned program child)
        return .ok child

end TerminalRelay
