import TerminalRelay.CommandLine.Flag
import TerminalRelay.Text.Visible

/-! What stops the reading of a command line, and the texts shown for it. -/

namespace TerminalRelay.CommandLine

/-- Why the command line asks for no session. Help and version are answers and no
failures. -/
inductive Rejection where
  | help
  | version
  | unknownLetter (c : Char)
  | unknownWord (name : List Char)
  | nearlyHelp (name : List Char)
  | helpTakesNoValue (value : List Char)
  | repeated (flag : Flag)
  | conflict (first : Flag) (others : List Flag)
  deriving DecidableEq, Repr

def usage : String :=
  "Usage: reptyr [-s] [-V] PID\n" ++
  "       reptyr [-T] [-V] PID\n" ++
  "       reptyr -l|-L [COMMAND [ARGS]]"

def versionText : String :=
  "reptyr 0.1.0\n"

def helpText : String :=
  "Reparent a running program to a new terminal\n\n" ++ usage ++ "\n\n" ++
  "Arguments:\n" ++
  "  [PID | COMMAND]...  PID to attach to, or with -l/-L the command to run\n\n" ++
  "Options:\n" ++
  "  -l          Create a new pty pair and print the name of the slave. " ++
  "Any arguments that follow are run as a command with REPTYR_PTY set to the slave\n" ++
  "  -L          Like -l, but also redirect the child's stdio to the slave\n" ++
  "  -s          Attach fds 0-2 on the target, even if it is not attached to a tty\n" ++
  "  -T          Steal the entire terminal session of the target\n" ++
  "  -V          Print verbose debug output\n" ++
  "  -v          Print the version number and exit\n" ++
  "  -h, --help  Print help\n"

namespace Rejection

def isFailure : Rejection → Bool
  | help | version => false
  | _ => true

def trailer : String :=
  "\n\n" ++ usage ++ "\n\nFor more information, try '--help'.\n"

def shown (part : List Char) : String :=
  String.ofList (Text.visible part)

def unknownText (argument : List Char) : String :=
  "error: unexpected argument '" ++ shown argument ++ "' found\n\n  tip: to pass '" ++
    shown argument ++ "' as a value, use '-- " ++ shown argument ++ "'"

def conflictText (first : Flag) : List Flag → String
  | [other] =>
    "error: the argument '" ++ first.spelling ++ "' cannot be used with '" ++ other.spelling ++ "'"
  | others =>
    "error: the argument '" ++ first.spelling ++ "' cannot be used with:" ++
      String.join (others.map fun other => "\n  " ++ other.spelling)

def text : Rejection → String
  | help => helpText
  | version => versionText
  | unknownLetter c => unknownText ['-', c] ++ trailer
  | unknownWord name => unknownText ('-' :: '-' :: name) ++ trailer
  | nearlyHelp name =>
    "error: unexpected argument '" ++ shown ('-' :: '-' :: name) ++
      "' found\n\n  tip: a similar argument exists: '--help'" ++ trailer
  | helpTakesNoValue value =>
    "error: unexpected value '" ++ shown value ++
      "' for '--help' found; no more were expected" ++ trailer
  | repeated flag =>
    "error: the argument '" ++ flag.spelling ++ "' cannot be used multiple times" ++ trailer
  | conflict first others => conflictText first others ++ trailer

end Rejection
end TerminalRelay.CommandLine
