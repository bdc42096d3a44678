import TerminalRelay.Signal

/-! The signals of a model host: what a thread blocks, whether the resize signal is
pending, and the flags that it raises. -/

namespace TerminalRelay.Host

structure Signals where
  mask : SignalSet
  pending : Bool
  flags : List (Nat × Bool)
  next : Nat
  deriving DecidableEq, Repr

namespace Signals

def unblockable : SignalSet :=
  (SignalSet.single 9).union (.single 19)

def quiet (mask : SignalSet) : Signals :=
  ⟨mask.without unblockable, false, [], 0⟩

/-- Delivers a pending resize signal if it is not blocked: every flag is raised, and
without flags the signal is gone. -/
def settle (s : Signals) : Signals :=
  if s.pending && !s.mask.hasResize then
    { s with pending := false, flags := s.flags.map fun flag => (flag.1, true) }
  else s

def raise (s : Signals) : Signals :=
  settle { s with pending := true }

def setMask (s : Signals) (mask : SignalSet) : Signals :=
  settle { s with mask := mask.without unblockable }

def block (s : Signals) (signals : SignalSet) : Signals :=
  s.setMask (s.mask.union signals)

/-- Delivers what a mask lets through and blocks the same signals as before. -/
def during (s : Signals) (mask : SignalSet) : Signals :=
  { s.setMask mask with mask := s.mask }

def interrupts (s : Signals) (mask : SignalSet) : Bool :=
  s.pending && !mask.hasResize

def watch (s : Signals) : Nat × Signals :=
  (s.next, { s with flags := (s.next, false) :: s.flags, next := s.next + 1 })

def unwatch (s : Signals) (flag : Nat) : Signals :=
  { s with flags := s.flags.filter (·.1 ≠ flag) }

def take (s : Signals) (flag : Nat) : Bool × Signals :=
  (s.flags.contains (flag, true),
    { s with flags := s.flags.map fun entry => (entry.1, entry.2 && entry.1 ≠ flag) })

end Signals
end TerminalRelay.Host
