import TerminalRelay.Terminal.Pty

/-! The takeover of a process, which is not part of this program: what a backend has to
offer, the backend that hands every question to the outside, and the one for a host
without a takeover engine. -/

namespace TerminalRelay

structure Backend where
  allocate : Program (Except Fault Pty)
  attach : Pid → String → Bool → Program (Except Errno Unit)
  steal : Pid → Program (Except Errno Descriptor)
  explain : Program Unit

namespace Backend

/-- The backend that lives outside. It may refuse a new pty, and is told nothing more about
one that is made. -/
def outside : Backend where
  allocate := do
    match ← .call .refusesPty with
    | some fault => return .error fault
    | none => Pty.allocate
  attach pid slave forceStdio := .call (.attach pid slave forceStdio)
  steal pid := .call (.steal pid)
  explain := .call .explain

def readScope (path : String) : Program (Except IoFailure Nat) := do
  match ← .call (.readFile path) with
  | .error failure => return .error failure
  | .ok contents => return (PtraceScope.parse contents).mapError (·.failure)

/-- The backend of a host without a takeover engine: it finds out whether the process may
be taken over at all, and then says that it cannot be done. -/
def system : Backend where
  allocate := Pty.allocate
  attach pid slave forceStdio := do
    match ← .call (.probe pid) with
    | .error e => return .error e
    | .ok () =>
      note (.wouldAttach pid slave forceStdio)
      return .error .notImplemented
  steal pid := do
    match ← .call (.probe pid) with
    | .error e => return .error e
    | .ok () => return .error .notImplemented
  explain := do
    note (.explained (← readScope PtraceScope.path).toOption)

end Backend
end TerminalRelay
