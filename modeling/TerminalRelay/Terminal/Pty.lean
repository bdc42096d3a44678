import TerminalRelay.Program.Basic

/-! Making a new pseudo-terminal. -/

namespace TerminalRelay

structure Pty where
  master : Descriptor
  slave : String
  deriving DecidableEq, Repr

/-- Opens a new master, makes its slave available and keeps the master from children. -/
def Pty.allocate : Program (Except Fault Pty) := do
  match ← .call .openMaster with
  | .error e => return .error (.openMaster e)
  | .ok master =>
    match ← .call (.grantSlave master) with
    | .error e => return .error (.grantPty e)
    | .ok () =>
      match ← .call (.unlockSlave master) with
      | .error e => return .error (.unlockPty e)
      | .ok () =>
        match ← .call (.slaveName master) with
        | .error e => return .error (.slaveName e)
        | .ok slave =>
          match ← .call (.closeOnExec master) with
          | .error e => return .error (.closeOnExec e)
          | .ok () =>
            note (.allocated slave)
            return .ok ⟨master, slave⟩

end TerminalRelay
