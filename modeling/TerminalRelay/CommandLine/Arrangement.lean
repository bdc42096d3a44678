import TerminalRelay.Text.Encoding

/-! The order of the command line. Flags may stand anywhere before the separator, so they
are moved in front of the operands, except that after a flag that opens a pty the operands
are a command and stay as they are from the first one on. -/

namespace TerminalRelay.CommandLine

def separator : Bytes := [0x2d, 0x2d]

def isFlag (argument : Bytes) : Bool :=
  match Text.decode? argument with
  | some ('-' :: _ :: _) => true
  | _ => false

def opensPty (argument : Bytes) : Bool :=
  match Text.decode? argument with
  | some ('-' :: '-' :: _) => false
  | some ('-' :: letters) => letters.contains 'l' || letters.contains 'L'
  | _ => false

/-- The flags and the operands of the arguments, each in their order. `begun` says that an
operand came before, `command` that the operands to come are a command. -/
def divide (begun command : Bool) : List Bytes → List Bytes × List Bytes
  | [] => ([], [])
  | argument :: rest =>
    if argument = separator then ([], rest)
    else if isFlag argument then
      let (flags, operands) := divide begun (command || !begun && opensPty argument) rest
      (argument :: flags, operands)
    else if command then ([], argument :: rest)
    else
      let (flags, operands) := divide true command rest
      (flags, argument :: operands)

/-- The command line with its flags first and its operands after a separator. -/
def arrange : List Bytes → List Bytes
  | [] => []
  | program :: arguments =>
    let (flags, operands) := divide false false arguments
    program :: flags ++ separator :: operands

end TerminalRelay.CommandLine
