import TerminalRelay.Invocation
import TerminalRelay.LogFilter

/-! The command line program: its arguments, its standard streams, its log and its exit
status. It reaches no terminals, processes or signals of the system, and answers every
request about them with an error that says so. -/

namespace TerminalRelay

def filterVariable : String :=
  "RUST_LOG"

def streamFailure (failure : IO.Error) : IoFailure :=
  .worded .other (toString failure)

def attempt {α : Type} (use : IO α) : IO (Except IoFailure α) := do
  try
    return .ok (← use)
  catch failure =>
    return .error (streamFailure failure)

def complain (text : String) : IO Unit := do
  let _ ← attempt (IO.eprint text)

/-- Answers a request of the program. The state is the filter of the log, and `chosen` the
one that the user asked for. -/
def answerHere (chosen : Option LogFilter) :
    (request : Request) → StateT LogFilter IO request.Answer
  | .print text => do
    match ← attempt ((← IO.getStdout).write ⟨text.toArray⟩) with
    | .ok () => return .ok text.length
    | .error failure => return .error failure
  | .flush => do attempt (← IO.getStdout).flush
  | .complain text => complain text
  | .startLog level => set (chosen.getD (.upTo level))
  | .log notice => do
    if (← get).shows notice then complain notice.logLine
  | .readAttributes _ | .writeAttributes _ _ | .readSize _ | .writeSize _ _ | .block _
  | .setMask _ | .wait _ _ _ | .read _ _ | .write _ _ | .openMaster | .grantSlave _
  | .unlockSlave _ | .slaveName _ | .closeOnExec _ | .probe _ | .attach _ _ _ | .steal _ =>
    return .error .notImplemented
  | .watchResize | .openSlave _ _ | .duplicate _ | .start _ | .readFile _ =>
    return .error (.ofErrno .notImplemented)
  | .takeFlag _ => return false
  | .unwatchResize _ | .explain => return ()
  | .refusesPty => return none

def runHere {α : Type} (chosen : Option LogFilter) : Program α → StateT LogFilter IO (Option α)
  | .done value => return some value
  | .unfinished => return none
  | .ask request next => do runHere chosen (next (← answerHere chosen request))

end TerminalRelay

def main (arguments : List String) : IO UInt32 := do
  let setting ← IO.getEnv TerminalRelay.filterVariable
  let program := TerminalRelay.invoke ⟨1, 4096⟩ TerminalRelay.Backend.system
    (("reptyr" :: arguments).map TerminalRelay.Text.encode)
  let chosen := setting.bind TerminalRelay.LogFilter.parse?
  let (code, _) ← (TerminalRelay.runHere chosen program).run []
  return (code.getD 1).toUInt32
