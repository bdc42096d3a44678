import TerminalRelay.IoFailure
import TerminalRelay.Text.Blank
import TerminalRelay.Text.Decimal
import TerminalRelay.Text.Encoding

/-! The kernel's policy on tracing other processes: how its level is read, and what a
refused user is told about it. -/

namespace TerminalRelay.PtraceScope

def path : String :=
  "/proc/sys/kernel/yama/ptrace_scope"

inductive ScopeFault where
  | notText
  | notNumber (fault : Text.NumberFault)
  deriving DecidableEq, Repr

def ScopeFault.message : ScopeFault → String
  | notText => "stream did not contain valid UTF-8"
  | notNumber .empty => "cannot parse integer from empty string"
  | notNumber .invalidDigit => "invalid digit found in string"
  | notNumber .tooLarge => "number too large to fit in target type"

def ScopeFault.failure (fault : ScopeFault) : IoFailure :=
  .worded .invalidData fault.message

/-- Reads the contents of the file: a number of at most one byte, with blanks around it. -/
def parse (contents : Bytes) : Except ScopeFault Nat :=
  match Text.decode? contents with
  | none => .error .notText
  | some text =>
    match Text.readNumber 255 (Text.trim text) with
    | .error fault => .error (.notNumber fault)
    | .ok level => .ok level

def hint : Option Nat → String
  | none =>
    "The kernel denied permission while attaching. " ++
    "Make sure you are running as the same user as the target (or as root)."
  | some 0 =>
    "The kernel denied permission while attaching, but " ++ path ++ " is 0, so Yama is not " ++
    "the cause. Make sure you are running as the same user as the target (or as root)."
  | some 1 =>
    "The kernel denied permission while attaching. " ++ path ++ " is 1, which only allows " ++
    "tracing descendants. As root, write 0 to that file to allow attaching, " ++
    "or run reptyr as root."
  | some 2 =>
    "The kernel denied permission while attaching. " ++ path ++ " is 2, which restricts " ++
    "tracing to processes with CAP_SYS_PTRACE. Run reptyr as root."
  | some level =>
    "The kernel denied permission while attaching. " ++ path ++ " is " ++ toString level ++
    ", which disables tracing entirely until reboot."

end TerminalRelay.PtraceScope
