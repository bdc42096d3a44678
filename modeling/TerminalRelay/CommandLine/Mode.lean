import TerminalRelay.CommandLine.Options
import TerminalRelay.Fault

/-! The kind of session that a command line selects. -/

namespace TerminalRelay

inductive Mode where
  | attach (pid : Pid) (forceStdio : Bool)
  | steal (pid : Pid)
  | create (redirect : Bool) (command : List Bytes)
  deriving DecidableEq

namespace CommandLine

def readPid (argument : List Char) : Except Fault Pid :=
  match Pid.parse argument with
  | .ok pid => .ok pid
  | .error reason => .error (.invalidPid (String.ofList argument) reason)

/-- The mode that the options select. With a new pty the operands are a command, otherwise
the first one names the process. -/
def Options.mode (options : Options) : Except Fault Mode :=
  if options.openPty || options.redirect then .ok (.create options.redirect options.operands)
  else match options.operands with
    | [] => .error (.usage "No pid specified to attach")
    | argument :: _ =>
      match readPid (Text.lossy argument) with
      | .error fault => .error fault
      | .ok pid =>
        .ok (if options.steal then .steal pid else .attach pid options.forceStdio)

end CommandLine
end TerminalRelay
