import TerminalRelay.Program.Basic

/-! Keeping the window size of the far side in step with the terminal. The resize signal
is blocked except while waiting, so it interrupts the wait or is still pending at the next
one, and a flag remembers it until the size is copied. -/

namespace TerminalRelay

/-- An installed watcher: whose size is copied to whom, the flag that the signal raises,
and the signals that were blocked before. -/
structure ResizeWatcher where
  source : Descriptor
  target : Descriptor
  flag : Nat
  previous : SignalSet
  deriving DecidableEq, Repr

def applySize (target : Descriptor) (size : WindowSize) : Program Unit := do
  match ← .call (.writeSize target size) with
  | .ok () => note (.resized size)
  | .error e => note (.resizeFailed e)

def copySize (source target : Descriptor) : Program Unit := do
  let reported ← .call (.readSize source)
  if let .error e := reported then
    note (.sizeUnreadable e)
  applySize target (WindowSize.effective reported)

namespace ResizeWatcher

/-- Blocks the resize signal, makes a flag for it and copies the size once. If there is no
flag to be had the signals are as before. -/
def install (source target : Descriptor) : Program (Except Fault ResizeWatcher) := do
  match ← .call (.block .resize) with
  | .error e => return .error (.signalMask e)
  | .ok previous =>
    match ← .call .watchResize with
    | .error failure =>
      let _ ← Program.call (.setMask previous)
      return .error (.signalHandler failure)
    | .ok flag =>
      copySize source target
      return .ok ⟨source, target, flag, previous⟩

def waitMask (watcher : ResizeWatcher) : SignalSet :=
  watcher.previous.without .resize

def propagate (watcher : ResizeWatcher) : Program Unit :=
  copySize watcher.source watcher.target

/-- Attends to a resize and says whether there was one. The flag is lowered before the
size is read, so a later resize raises it again. -/
def service (watcher : ResizeWatcher) : Program Bool := do
  if ← Program.call (.takeFlag watcher.flag) then
    watcher.propagate
    return true
  else return false

theorem service_eq (watcher : ResizeWatcher) :
    watcher.service = .ask (.takeFlag watcher.flag) fun raised =>
      if raised then watcher.propagate >>= fun _ => .done true else .done false := rfl

def remove (watcher : ResizeWatcher) : Program Unit := do
  Program.call (.unwatchResize watcher.flag)
  if let .error e ← Program.call (.setMask watcher.previous) then
    note (.maskNotRestored e)

end ResizeWatcher
end TerminalRelay
