import TerminalRelay.Host.Device
import TerminalRelay.Host.Files
import TerminalRelay.Host.Signals
import TerminalRelay.LogFilter
import TerminalRelay.Program.Request

/-! The state of a model host: its devices and pseudo-terminals, signals, limits, files and
processes, what the user sees, and what happens from outside while the program waits. -/

namespace TerminalRelay.Host

inductive OutsideEvent where
  | typed (bytes : Bytes)
  | shown (bytes : Bytes)
  | resized (size : WindowSize)
  | hungUp
  | inputEnded
  | targetEnded
  deriving DecidableEq, Repr

def OutsideEvent.backlog : OutsideEvent → Nat
  | .typed bytes | .shown bytes => bytes.length
  | _ => 0

/-- What could be seen from outside when the program was waiting with nothing to do. -/
structure Glimpse where
  reached : Bytes
  displayed : Bytes
  targetSize : Except Errno WindowSize
  attributes : Except Errno Attributes

/-- Where the program's own lines go: how much is taken in all and with what failure
beyond, and how flushing fails. A failure number of zero means that nothing is taken. -/
structure Printer where
  room : Option Nat
  failure : Int
  flushFailure : Option Int
  text : Bytes
  flushes : Nat
  deriving DecidableEq, Repr

def Printer.willing : Printer :=
  ⟨none, 0, none, [], 0⟩

inductive BackendCall where
  | allocate
  | attach (pid : Pid) (slave : String) (forceStdio : Bool)
  | steal (pid : Pid)
  | explain
  deriving DecidableEq

structure BackendPlan where
  allocation : Option Fault
  attaching : Except Errno Unit
  letsGo : Bool
  stealing : Except Errno Nat
  limitAfterAllocation : Option Nat

def BackendPlan.willing : BackendPlan :=
  ⟨none, .ok (), false, .error .notImplemented, none⟩

inductive ChildStatus where
  | exited (code : Nat)
  | killed (signal : Nat)
  deriving DecidableEq, Repr

structure Child where
  status : ChildStatus
  output : Bytes
  error : Bytes
  tty : Bytes
  deriving DecidableEq, Repr

structure Startup where
  program : Bytes
  launch : Launch
  pid : Nat
  limit : Option Nat
  deriving DecidableEq, Repr

/-- What the programs of a host do: how a child runs from its beginning to its end, and what
it makes of the pty that it is told about. -/
abbrev Behaviour := Startup → PtyState → Child × PtyState

def Behaviour.idle : Behaviour :=
  fun _ pty => (⟨.exited 0, [], [], []⟩, pty)

def selfPid : Nat := 2097151

end TerminalRelay.Host

namespace TerminalRelay

structure Host where
  devices : List Host.Device
  ptys : List Host.PtyState
  terminal : Nat
  input : Nat
  output : Nat
  signals : Host.Signals
  limit : Option Nat
  background : Bool
  plan : Host.BackendPlan
  calls : List Host.BackendCall
  contents : List (String × Except IoFailure Bytes)
  files : Host.Files
  behaviour : Host.Behaviour
  processes : List Nat
  printer : Host.Printer
  children : List Host.Child
  chosenFilter : Option LogFilter
  filter : LogFilter
  journal : List Notice
  complaints : List String
  schedule : List Host.OutsideEvent
  glimpses : List Host.Glimpse

def Host.bare : Host where
  devices := [.connection .quiet, .connection .quiet, .connection .quiet]
  ptys := []
  terminal := 0
  input := 1
  output := 2
  signals := .quiet .empty
  limit := none
  background := false
  plan := .willing
  calls := []
  contents := []
  files := .none
  behaviour := .idle
  processes := [1, Host.selfPid]
  printer := .willing
  children := []
  chosenFilter := none
  filter := .upTo .warning
  journal := []
  complaints := []
  schedule := []
  glimpses := []

namespace Host

def number (host : Host) : Descriptor → Nat
  | .terminal => host.terminal
  | .input => host.input
  | .output => host.output
  | .opened n => n

def device? (host : Host) (d : Descriptor) : Option Device :=
  host.devices[host.number d]?

def setDevice (host : Host) (d : Descriptor) (device : Device) : Host :=
  { host with devices := host.devices.set (host.number d) device }

def setPty (host : Host) (n : Nat) (pty : PtyState) : Host :=
  { host with ptys := host.ptys.set n pty }

def addDevice (host : Host) (device : Device) : Descriptor × Host :=
  (.opened host.devices.length, { host with devices := host.devices ++ [device] })

def addPty (host : Host) (pty : PtyState) : Nat × Host :=
  (host.ptys.length, { host with ptys := host.ptys ++ [pty] })

/-- The pseudo-terminal behind a descriptor, on which the terminal operations work. From
the slave side they fail once the master is gone, and other devices are no terminals. -/
def tty (host : Host) (d : Descriptor) : Except Errno (Nat × PtyState) :=
  let find (n : Nat) : Except Errno (Nat × PtyState) :=
    match host.ptys[n]? with
    | some pty => if pty.masterOpen then .ok (n, pty) else .error .inputOutput
    | none => .error .badDescriptor
  match host.device? d with
  | some (.master n) => find n
  | some (.slave n) => find n
  | some _ => .error .notTerminal
  | none => .error .badDescriptor

def attributes (host : Host) (d : Descriptor) : Except Errno Attributes :=
  (host.tty d).map (·.2.attributes)

/-- The attributes as a pseudo-terminal keeps them: the highest bit of the input flags is
no flag and gets lost. -/
def kept (attributes : Attributes) : Attributes :=
  { attributes with input := attributes.input &&& 0x7fffffff }

def setAttributes (host : Host) (d : Descriptor) (attributes : Attributes) :
    Except Errno Unit × Host :=
  match host.tty d with
  | .error e => (.error e, host)
  | .ok (n, pty) =>
    if host.background then (.error .inputOutput, host)
    else (.ok (), host.setPty n { pty with attributes := kept attributes })

def size (host : Host) (d : Descriptor) : Except Errno WindowSize :=
  (host.tty d).map (·.2.size)

def setSize (host : Host) (d : Descriptor) (size : WindowSize) : Except Errno Unit × Host :=
  match host.tty d with
  | .error e => (.error e, host)
  | .ok (n, pty) => (.ok (), host.setPty n { pty with size := size })

def isReady (host : Host) (d : Descriptor) : Bool :=
  match host.device? d with
  | some (.connection c) => c.isReady
  | some (.master n) => ((host.ptys[n]?).map PtyState.isReady).getD true
  | some (.slave n) => ((host.ptys[n]?).map (!·.masterOpen)).getD true
  | _ => true

def read (host : Host) (d : Descriptor) (limit : Nat) : Except Errno Bytes × Host :=
  match host.device? d with
  | some (.connection c) =>
    let (answer, c) := c.read limit
    (answer, host.setDevice d (.connection c))
  | some (.file rest) => (.ok (rest.take limit), host.setDevice d (.file (rest.drop limit)))
  | some .null => (.ok [], host)
  | some .directory => (.error .isDirectory, host)
  | some (.master n) =>
    match host.ptys[n]? with
    | some pty =>
      let (answer, pty) := pty.read limit
      (answer, host.setPty n pty)
    | none => (.error .badDescriptor, host)
  | some (.slave _) => (.error .tryAgain, host)
  | _ => (.error .badDescriptor, host)

def write (host : Host) (d : Descriptor) (chunk : Bytes) : Except Errno Nat × Host :=
  match host.device? d with
  | some (.connection c) =>
    let (answer, c) := c.write chunk
    (answer, host.setDevice d (.connection c))
  | some .brokenPipe => (.error .brokenPipe, host)
  | some .full => (.error .noSpace, host)
  | some (.master n) =>
    match host.ptys[n]? with
    | some pty =>
      let (answer, pty) := pty.write chunk
      (answer, host.setPty n pty)
    | none => (.error .badDescriptor, host)
  | some (.slave _) => (.ok chunk.length, host)
  | _ => (.error .badDescriptor, host)

def reached (host : Host) (d : Descriptor) : Bytes :=
  match host.device? d with
  | some (.connection c) => c.reached
  | some (.master n) => ((host.ptys[n]?).map PtyState.reached).getD []
  | _ => []

def isFull (host : Host) : Bool :=
  match host.limit with
  | none => false
  | some limit => limit ≤ 3 + host.devices.length

def slaveName (n : Nat) : String :=
  "/dev/pts/" ++ toString n

def findSlave (host : Host) (name : String) : Option Nat :=
  host.ptys.zipIdx.findSome? fun (pty, n) =>
    if slaveName n = name && pty.masterOpen then some n else none

end Host
end TerminalRelay
