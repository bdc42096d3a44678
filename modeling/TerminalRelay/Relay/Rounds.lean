import TerminalRelay.Relay.Delivery
import TerminalRelay.Terminal.ResizeWatcher

/-! The relay between the local side and the far side. Each round attends to a resize,
waits, and moves at most one chunk each way; a chunk is written out before anything else
is read. Both directions read into one buffer, which is never cleared. -/

namespace TerminalRelay

def chunkSize : Nat := 4096

def blankBuffer : Bytes :=
  List.replicate chunkSize 0

def overwrite (buffer read : Bytes) : Bytes :=
  read ++ buffer.drop read.length

@[simp] theorem take_overwrite (buffer read : Bytes) :
    (overwrite buffer read).take read.length = read := by
  simp [overwrite]

/-- Moves one chunk from the source to the sink by way of the buffer, and returns the
buffer if the source goes on. Its end and its failure are alike; a failing sink only loses
the chunk. -/
def pump (patience : Nat) (source sink : Descriptor) (buffer : Bytes) :
    Program (Option Bytes) := do
  match ← .call (.read source chunkSize) with
  | .error e =>
    note (.readFailed e)
    return none
  | .ok [] => return none
  | .ok read =>
    let buffer := overwrite buffer read
    match ← deliver sink patience (buffer.take read.length) with
    | .ok () => return some buffer
    | .error e =>
      note (.dropped sink read.length e)
      return some buffer

def pumpIf (patience : Nat) (ready : Bool) (source sink : Descriptor) (buffer : Bytes) :
    Program (Option Bytes) :=
  if ready then pump patience source sink buffer else .done (some buffer)

/-- Moves a chunk each way as far as the sides are ready, the local input first, and names
the ending if a side is closed. -/
def exchange (patience : Nat) (target : Descriptor) (ready : Readiness) (buffer : Bytes) :
    Program (Except Ending Bytes) := do
  match ← pumpIf patience ready.input .input target buffer with
  | none => return .error .localClosed
  | some buffer =>
    match ← pumpIf patience ready.target target .output buffer with
    | none => return .error .targetClosed
    | some buffer => return .ok buffer

/-- Relays for at most so many rounds, each write taking at most `patience` offers. -/
def relay (patience : Nat) (target : Descriptor) (watcher : ResizeWatcher) :
    Nat → Bytes → Program Ending
  | 0, _ => .unfinished
  | rounds + 1, buffer => do
    let _ ← watcher.service
    match ← .call (.wait .input target watcher.waitMask) with
    | .error e =>
      if e = .interrupted then relay patience target watcher rounds buffer
      else
        note (.waitFailed e)
        return .waitFailed e
    | .ok ready =>
      match ← exchange patience target ready buffer with
      | .error ending => return ending
      | .ok buffer => relay patience target watcher rounds buffer

end TerminalRelay
