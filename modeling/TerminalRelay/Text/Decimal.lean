/-! Decimal numbers: the value of a run of digits, and the two readings of them that the
program makes, one without a bound and one that stops at a bound. -/

namespace TerminalRelay.Text

def isDigit (c : Char) : Bool :=
  '0' ≤ c && c ≤ '9'

def digitValue (c : Char) : Nat :=
  c.toNat - '0'.toNat

def valueFrom (start : Nat) (digits : List Char) : Nat :=
  digits.foldl (fun value digit => value * 10 + digitValue digit) start

def value (digits : List Char) : Nat :=
  valueFrom 0 digits

/-- The shortest digits that write a number. -/
def digits (n : Nat) : List Char :=
  Nat.toDigits 10 n

inductive NumberFault where
  | empty
  | invalidDigit
  | tooLarge
  deriving DecidableEq, Repr

/-- Reads digits from left to right, keeping within `bound`: a character that is no digit
is refused before the number is found too large to take one more. -/
def readWithin (bound : Nat) : Nat → List Char → Except NumberFault Nat
  | number, [] => .ok number
  | number, c :: rest =>
    if isDigit c then
      let next := number * 10 + digitValue c
      if next ≤ bound then readWithin bound next rest else .error .tooLarge
    else .error .invalidDigit

def readNumber (bound : Nat) : List Char → Except NumberFault Nat
  | [] => .error .empty
  | ['+'] => .error .invalidDigit
  | '+' :: rest => readWithin bound 0 rest
  | text => readWithin bound 0 text

end TerminalRelay.Text
