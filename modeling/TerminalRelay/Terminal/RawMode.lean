import TerminalRelay.Program.Basic

/-! Raw mode for the length of a session. The attributes found are put back once, whether
the session is ended in order or given up. -/

namespace TerminalRelay

/-- A hold on the terminal: the snapshot to put back, if raw mode was entered. -/
structure RawMode where
  device : Descriptor
  saved : Option Attributes
  deriving DecidableEq, Repr

def restore (device : Descriptor) (saved : Attributes) : Nat → Program (Except Fault Unit)
  | 0 => .unfinished
  | patience + 1 => do
    match ← .call (.writeAttributes device saved) with
    | .ok () => return .ok ()
    | .error e =>
      if e = .interrupted then restore device saved patience
      else return .error (.restoreTerminal e)

namespace RawMode

/-- Takes a snapshot and enters raw mode. A descriptor without attributes is left alone. -/
def acquire (device : Descriptor) : Program (Except Fault RawMode) := do
  match ← .call (.readAttributes device) with
  | .error e =>
    note (.attributesUnreadable e)
    return .ok ⟨device, none⟩
  | .ok found =>
    match ← .call (.writeAttributes device found.snapshot.raw) with
    | .error e => return .error (.rawMode e)
    | .ok () => return .ok ⟨device, some found.snapshot⟩

def isRaw (held : RawMode) : Bool :=
  held.saved.isSome

/-- Gives the hold up. Where it has a snapshot still, that is put back, with nobody left to be
told of a failure, which is only noted. -/
def abandon (patience : Nat) (held : RawMode) : Program Unit := do
  if let some saved := held.saved then
    if let .error fault ← restore held.device saved patience then
      note (.restoreFailed fault)

def release (patience : Nat) (held : RawMode) : Program (Except Fault Unit) := do
  let result ← match held.saved with
    | none => .done (.ok ())
    | some saved => restore held.device saved patience
  let emptied : RawMode := { held with saved := none }
  emptied.abandon patience
  return result

@[simp] theorem abandon_emptied (patience : Nat) (device : Descriptor) :
    abandon patience ⟨device, none⟩ = .done () := rfl

theorem release_cooked (patience : Nat) (device : Descriptor) :
    release patience ⟨device, none⟩ = .done (.ok ()) := rfl

theorem release_raw (patience : Nat) (device : Descriptor) (saved : Attributes) :
    release patience ⟨device, some saved⟩ = restore device saved patience :=
  Program.bind_done (restore device saved patience)

end RawMode
end TerminalRelay
