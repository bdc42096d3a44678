import TerminalRelay.Text.Decimal

/-! Process identifiers as they are given on the command line: decimal digits and nothing
else, so that no argument ever names a process group. -/

namespace TerminalRelay

def maxPid : Nat := 2147483647

structure Pid where
  number : Nat
  positive : 1 ≤ number
  bounded : number ≤ maxPid
  deriving DecidableEq

inductive PidFault where
  | empty
  | notNumeric
  | outOfRange
  deriving DecidableEq, Repr

def PidFault.message : PidFault → String
  | empty => "no pid given"
  | notNumeric => "must be integer"
  | outOfRange => "Numerical result out of range"

namespace Pid

def ofNumber? (number : Nat) : Option Pid :=
  if fits : 1 ≤ number ∧ number ≤ maxPid then some ⟨number, fits.1, fits.2⟩ else none

/-- Reads an argument. That it holds digits only is settled before their value. -/
def parse (text : List Char) : Except PidFault Pid :=
  if text.isEmpty then .error .empty
  else if !text.all Text.isDigit then .error .notNumeric
  else match Text.readWithin maxPid 0 text with
    | .error _ => .error .outOfRange
    | .ok number =>
      match ofNumber? number with
      | some pid => .ok pid
      | none => .error .outOfRange

def toDigits (pid : Pid) : List Char :=
  Text.digits pid.number

instance : ToString Pid where
  toString pid := String.ofList pid.toDigits

end Pid
end TerminalRelay
