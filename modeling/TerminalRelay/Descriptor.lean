/-! Open descriptors. -/

namespace TerminalRelay

/-- An open descriptor. The three local ones have fixed roles; every other one was opened
or handed over during the run and is known by its number. -/
inductive Descriptor where
  | terminal
  | input
  | output
  | opened (number : Nat)
  deriving DecidableEq, Repr, Inhabited

end TerminalRelay
