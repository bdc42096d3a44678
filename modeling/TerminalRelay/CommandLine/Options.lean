import TerminalRelay.CommandLine.Arrangement
import TerminalRelay.CommandLine.Rejection
import TerminalRelay.Text.Similarity

/-! Reading the command line. The marks of the flags are read from left to right and the
first one that is not in order decides; only flags that are all in order can exclude each
other. -/

namespace TerminalRelay.CommandLine

/-- What the command line asks for. -/
structure Options where
  openPty : Bool
  redirect : Bool
  forceStdio : Bool
  steal : Bool
  verbose : Bool
  operands : List Bytes
  deriving DecidableEq, Repr

def Options.ofFlags (given : List Flag) (operands : List Bytes) : Options where
  openPty := given.contains .openPty
  redirect := given.contains .redirect
  forceStdio := given.contains .forceStdio
  steal := given.contains .steal
  verbose := given.contains .verbose
  operands := operands

def splitValue (word : List Char) : List Char × Option (List Char) :=
  let name := word.takeWhile (· ≠ '=')
  (name, match word.dropWhile (· ≠ '=') with
    | [] => none
    | _ :: value => some value)

def refuseWord (word : List Char) : Rejection :=
  match splitValue word with
  | (name, value) =>
    if name = "help".toList then
      match value with
      | none => .help
      | some value => .helpTakesNoValue value
    else if Text.areAlike name "help".toList then .nearlyHelp name
    else .unknownWord name

def readMark (given : List Flag) : Mark → Except Rejection (List Flag)
  | .letter 'h' => .error .help
  | .letter 'v' => .error .version
  | .letter c =>
    match Flag.ofLetter? c with
    | none => .error (.unknownLetter c)
    | some flag => if flag ∈ given then .error (.repeated flag) else .ok (given ++ [flag])
  | .word word => .error (refuseWord word)

def readMarks (given : List Flag) : List Mark → Except Rejection (List Flag)
  | [] => .ok given
  | mark :: rest =>
    match readMark given mark with
    | .error rejection => .error rejection
    | .ok given => readMarks given rest

/-- The conflict among flags given in this order, if there is one: a takeover does not go
with a new pty. The one that came first is blamed. -/
def conflict? (given : List Flag) : Option Rejection :=
  let opening := given.filter Flag.opens
  if given.contains .steal && !opening.isEmpty then
    match given.find? fun flag => flag.opens || flag = .steal with
    | some .steal => some (.conflict .steal opening)
    | some first => some (.conflict first [.steal])
    | none => none
  else none

def readOptions (flags operands : List Bytes) : Except Rejection Options :=
  match readMarks [] (flags.flatMap marks) with
  | .error rejection => .error rejection
  | .ok given =>
    match conflict? given with
    | some rejection => .error rejection
    | none => .ok (Options.ofFlags given operands)

/-- Reads the command line, program name first. -/
def parse (arguments : List Bytes) : Except Rejection Options :=
  let arranged := (arrange arguments).drop 1
  readOptions (arranged.takeWhile (· ≠ separator))
    ((arranged.dropWhile (· ≠ separator)).drop 1)

end TerminalRelay.CommandLine
