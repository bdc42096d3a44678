import TerminalRelay.Attributes
import TerminalRelay.Errno
import TerminalRelay.Text.Encoding
import TerminalRelay.WindowSize

/-! The devices of a model host: connections, files and pseudo-terminals, and what reading
and writing do to them. -/

namespace TerminalRelay.Host

/-- What the far end of a connection sent: one stream of bytes, or packets that are read
one at a time. -/
inductive Arrivals where
  | stream (bytes : Bytes)
  | packets (queue : List Bytes)
  deriving DecidableEq, Repr

structure Connection where
  arrivals : Arrivals
  ended : Bool
  refusing : Bool
  written : List Bytes
  deriving DecidableEq, Repr

inductive SlaveSide where
  | unopened
  | held
  | closed
  deriving DecidableEq, Repr

/-- A pseudo-terminal. Both sides share its attributes and its size. -/
structure PtyState where
  attributes : Attributes
  size : WindowSize
  masterOpen : Bool
  slaveSide : SlaveSide
  typed : List Bytes
  shown : Bytes
  deriving DecidableEq, Repr

def PtyState.fresh : PtyState :=
  ⟨.initial, .unset, true, .unopened, [], []⟩

inductive Device where
  | connection (state : Connection)
  | file (rest : Bytes)
  | null
  | directory
  | brokenPipe
  | full
  | master (pty : Nat)
  | slave (pty : Nat)
  deriving DecidableEq, Repr

namespace Connection

def quiet : Connection :=
  ⟨.stream [], false, false, []⟩

def isReady (c : Connection) : Bool :=
  c.ended || match c.arrivals with
    | .stream bytes => !bytes.isEmpty
    | .packets queue => !queue.isEmpty

/-- Reads at most so many bytes. Of a packet the rest is lost; a read of nothing takes
nothing. -/
def read (c : Connection) (limit : Nat) : Except Errno Bytes × Connection :=
  if limit = 0 then (.ok [], c)
  else match c.arrivals with
    | .stream [] | .packets [] => (if c.ended then .ok [] else .error .tryAgain, c)
    | .stream bytes => (.ok (bytes.take limit), { c with arrivals := .stream (bytes.drop limit) })
    | .packets (first :: rest) => (.ok (first.take limit), { c with arrivals := .packets rest })

def write (c : Connection) (chunk : Bytes) : Except Errno Nat × Connection :=
  if c.refusing then (.error .brokenPipe, c)
  else (.ok chunk.length, { c with written := chunk :: c.written })

def receive (c : Connection) (bytes : Bytes) : Connection :=
  match c.arrivals with
  | .stream waiting => { c with arrivals := .stream (waiting ++ bytes) }
  | .packets queue => { c with arrivals := .packets (queue ++ [bytes]) }

def reached (c : Connection) : Bytes :=
  c.written.reverse.flatten

end Connection

namespace PtyState

def isReady (pty : PtyState) : Bool :=
  !pty.shown.isEmpty || pty.slaveSide = .closed

def read (pty : PtyState) (limit : Nat) : Except Errno Bytes × PtyState :=
  if limit = 0 then (.ok [], pty)
  else if pty.shown.isEmpty then
    (if pty.slaveSide = .closed then .error .inputOutput else .error .tryAgain, pty)
  else (.ok (pty.shown.take limit), { pty with shown := pty.shown.drop limit })

def write (pty : PtyState) (chunk : Bytes) : Except Errno Nat × PtyState :=
  (.ok chunk.length, { pty with typed := chunk :: pty.typed })

def reached (pty : PtyState) : Bytes :=
  pty.typed.reverse.flatten

end PtyState
def Device.backlog : Device → Nat
  | .connection c =>
    match c.arrivals with
    | .stream bytes => bytes.length
    | .packets queue => queue.length
  | .file rest => rest.length
  | _ => 0

end TerminalRelay.Host
