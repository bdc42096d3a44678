import TerminalRelay.Errno

/-! The ways in which a relay comes to its end. None of them is a fault. -/

namespace TerminalRelay

inductive Ending where
  | localClosed
  | targetClosed
  | waitFailed (e : Errno)
  /-- The resize signal could not be routed, so nothing was relayed. -/
  | resizeUnavailable
  deriving DecidableEq, Repr

def Ending.describe : Ending → String
  | localClosed => "LocalClosed"
  | targetClosed => "TargetClosed"
  | waitFailed e => "WaitFailed(" ++ e.name ++ ")"
  | resizeUnavailable => "ResizeUnavailable"

end TerminalRelay
