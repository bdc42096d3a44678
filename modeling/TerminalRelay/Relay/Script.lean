import TerminalRelay.Relay.Delivery

/-! Writes with scripted answers: each write takes the next answer of a script, and past its
end everything offered is taken. -/

namespace TerminalRelay

/-- A sink whose answers are known beforehand, and what came to it. -/
structure ScriptedSink where
  script : List (Except Errno Nat)
  offers : List Nat
  taken : List Bytes

namespace ScriptedSink

def ofScript (script : List (Except Errno Nat)) : ScriptedSink :=
  ⟨script, [], []⟩

/-- Answers one write. An answer beyond the length of the chunk takes all of it. -/
def write (sink : ScriptedSink) (chunk : Bytes) : Except Errno Nat × ScriptedSink :=
  let offers := chunk.length :: sink.offers
  match sink.script with
  | [] => (.ok chunk.length, ⟨[], offers, chunk :: sink.taken⟩)
  | .ok n :: rest => (.ok n, ⟨rest, offers, chunk.take n :: sink.taken⟩)
  | .error e :: rest => (.error e, ⟨rest, offers, sink.taken⟩)

def bytes (sink : ScriptedSink) : Bytes :=
  sink.taken.reverse.flatten

def run {α : Type} (sink : ScriptedSink) : Program α → Option α × ScriptedSink
  | .done value => (some value, sink)
  | .ask (.write _ chunk) next =>
    let (answer, sink) := sink.write chunk
    sink.run (next answer)
  | .ask _ _ => (none, sink)
  | .unfinished => (none, sink)

end ScriptedSink

def deliverScripted (data : Bytes) (script : List (Except Errno Nat)) :
    Option (Except Errno Unit) × ScriptedSink :=
  (ScriptedSink.ofScript script).run
    (deliver .output (data.length + script.length) data)

end TerminalRelay
