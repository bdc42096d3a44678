import TerminalRelay.Host.State
import TerminalRelay.Program.Basic

/-! How a model host answers requests, and how a program runs on it. -/

namespace TerminalRelay.Host

def glimpse (host : Host) (target : Descriptor) : Glimpse :=
  ⟨host.reached target, host.reached .output, host.size target, host.attributes .terminal⟩

def changeConnection (host : Host) (d : Descriptor) (change : Connection → Connection) : Host :=
  match host.device? d with
  | some (.connection c) => host.setDevice d (.connection (change c))
  | _ => host

def changePty (host : Host) (d : Descriptor) (change : PtyState → PtyState) : Host :=
  match host.tty d with
  | .ok (n, pty) => host.setPty n (change pty)
  | .error _ => host

def happen (host : Host) (target : Descriptor) : OutsideEvent → Host
  | .typed bytes => host.changeConnection .input (·.receive bytes)
  | .shown bytes =>
    (host.changeConnection target (·.receive bytes)).changePty target fun pty =>
      { pty with shown := pty.shown ++ bytes }
  | .resized size =>
    let host := (host.setSize .terminal size).2
    { host with signals := host.signals.raise }
  | .hungUp => host.changePty .terminal fun pty => { pty with masterOpen := false }
  | .inputEnded => host.changeConnection .input fun c => { c with ended := true }
  | .targetEnded =>
    (host.changeConnection target fun c => { c with ended := true }).changePty target fun pty =>
      { pty with slaveSide := .closed }

/-- Waits for one of two descriptors. Readiness comes before a pending signal, which then
stays pending; with neither the next thing happens from outside. Without that either the
wait never ends. -/
def waitFor (near far : Descriptor) (mask : SignalSet) :
    List OutsideEvent → Host → Option (Except Errno Readiness × Host)
  | schedule, host =>
    let ready : Readiness := ⟨host.isReady near, host.isReady far⟩
    if ready.input || ready.target then some (.ok ready, { host with schedule := schedule })
    else if host.signals.interrupts mask then
      some (.error .interrupted,
        { host with schedule := schedule, signals := host.signals.during mask })
    else match schedule with
      | [] => none
      | event :: rest =>
        waitFor near far mask rest
          ({ host with glimpses := host.glimpse far :: host.glimpses }.happen far event)

def wait (host : Host) (near far : Descriptor) (mask : SignalSet) :
    Option (Except Errno Readiness × Host) :=
  if (host.limit.map fun limit => decide (limit < 2)).getD false then some (.error .invalid, host)
  else waitFor near far mask host.schedule host

def openMaster (host : Host) : Except Errno Descriptor × Host :=
  if host.isFull then (.error .tooManyFiles, host)
  else
    let (n, host) := host.addPty .fresh
    let (d, host) := host.addDevice (.master n)
    (.ok d, host)

def masterName (host : Host) (d : Descriptor) : Except Errno String :=
  match host.device? d with
  | some (.master n) => .ok (slaveName n)
  | some _ => .error .notTerminal
  | none => .error .badDescriptor

def openSlave (host : Host) (name : String) : Except IoFailure Descriptor × Host :=
  if host.isFull then (.error (.ofErrno .tooManyFiles), host)
  else match host.findSlave name with
    | none => (.error (.ofErrno .noEntry), host)
    | some n =>
      let (d, host) := host.addDevice (.slave n)
      (.ok d, host.changePty d fun pty => { pty with slaveSide := .held })

def duplicate (host : Host) (d : Descriptor) : Except IoFailure Descriptor × Host :=
  if host.isFull then (.error (.ofErrno .tooManyFiles), host)
  else match host.device? d with
    | some device =>
      let (copy, host) := host.addDevice device
      (.ok copy, host)
    | none => (.error (.ofErrno .badDescriptor), host)

def firstChild : Nat := 4190000

def start (host : Host) (launch : Launch) : Except IoFailure Nat × Host :=
  match host.files.prepare launch.program launch.arguments with
  | .error failure => (.error failure, host)
  | .ok program =>
    let pid := firstChild + 1000 * host.children.length
    let slave? := (host.findSlave launch.slave).bind fun n => (host.ptys[n]?).map (n, ·)
    let pty := (slave?.map (·.2)).getD .fresh
    let (child, pty) := host.behaviour ⟨program, launch, pid, host.limit⟩ pty
    let host := match slave? with
      | some (n, _) => host.setPty n pty
      | none => host
    (.ok pid, { host with children := host.children ++ [child] })

def probe (host : Host) (pid : Pid) : Except Errno Unit :=
  if host.processes.contains pid.number then .ok () else .error .noProcess

def readFile (host : Host) (path : String) : Except IoFailure Bytes :=
  (host.contents.lookup path).getD (.error (.ofErrno .noEntry))

def print (host : Host) (text : Bytes) : Except IoFailure Nat × Host :=
  let printer := host.printer
  let take (n : Nat) : Except IoFailure Nat × Host :=
    (.ok n, { host with printer := { printer with text := printer.text ++ text.take n } })
  match printer.room with
  | none => take text.length
  | some room =>
    if printer.text.length < room then take (min text.length (room - printer.text.length))
    else if printer.failure = 0 then (.ok 0, host)
    else (.error (.os printer.failure), host)

def flush (host : Host) : Except IoFailure Unit × Host :=
  let host := { host with printer := { host.printer with flushes := host.printer.flushes + 1 } }
  match host.printer.flushFailure with
  | none => (.ok (), host)
  | some failure => (.error (.os failure), host)

def record (host : Host) (call : BackendCall) : Host :=
  { host with calls := call :: host.calls }

def attach (host : Host) (slave : String) : Except Errno Unit × Host :=
  match host.plan.attaching with
  | .error e => (.error e, host)
  | .ok () =>
    match host.findSlave slave with
    | none => (.error .noEntry, host)
    | some n =>
      match host.ptys[n]? with
      | none => (.error .noEntry, host)
      | some pty =>
        if host.plan.letsGo then (.ok (), host.setPty n { pty with slaveSide := .closed })
        else
          (.ok (), host.setPty n
            { pty with slaveSide := .held, attributes := pty.attributes.raw })

def log (host : Host) (notice : Notice) : Host :=
  let host := { host with journal := notice :: host.journal }
  if host.filter.shows notice then { host with complaints := notice.logLine :: host.complaints }
  else host

/-- The answer to a request and the host after it. There is none if the program waits for
ever. -/
def answer (host : Host) : (request : Request) → Option (request.Answer × Host)
  | .readAttributes d => some (host.attributes d, host)
  | .writeAttributes d attributes => some (host.setAttributes d attributes)
  | .readSize d => some (host.size d, host)
  | .writeSize d size => some (host.setSize d size)
  | .block signals =>
    some (.ok host.signals.mask, { host with signals := host.signals.block signals })
  | .setMask signals =>
    some (.ok (), { host with signals := host.signals.setMask signals })
  | .watchResize =>
    let (flag, signals) := host.signals.watch
    some (.ok flag, { host with signals := signals })
  | .unwatchResize flag =>
    some ((), { host with signals := host.signals.unwatch flag })
  | .takeFlag flag =>
    let (raised, signals) := host.signals.take flag
    some (raised, { host with signals := signals })
  | .wait near far mask => host.wait near far mask
  | .read d limit => some (host.read d limit)
  | .write d chunk => some (host.write d chunk)
  | .openMaster => some host.openMaster
  | .grantSlave _ => some (.ok (), host)
  | .unlockSlave _ => some (.ok (), host)
  | .slaveName d => some (host.masterName d, host)
  | .closeOnExec _ =>
    some (.ok (), { host with limit := host.plan.limitAfterAllocation <|> host.limit })
  | .openSlave name _ => some (host.openSlave name)
  | .duplicate d => some (host.duplicate d)
  | .start launch => some (host.start launch)
  | .probe pid => some (host.probe pid, host)
  | .readFile path => some (host.readFile path, host)
  | .refusesPty => some (host.plan.allocation, host.record .allocate)
  | .attach pid slave forceStdio =>
    some ((host.record (.attach pid slave forceStdio)).attach slave)
  | .steal pid =>
    some (host.plan.stealing.map .opened, host.record (.steal pid))
  | .explain => some ((), host.record .explain)
  | .print text => some (host.print text)
  | .flush => some host.flush
  | .complain text => some ((), { host with complaints := text :: host.complaints })
  | .startLog level =>
    some ((), { host with filter := host.chosenFilter.getD (.upTo level) })
  | .log notice => some ((), host.log notice)

def run {α : Type} (host : Host) : Program α → Option α × Host
  | .done value => (some value, host)
  | .unfinished => (none, host)
  | .ask request next =>
    match host.answer request with
    | some (answer, host) => host.run (next answer)
    | none => (none, host)

/-- An allowance that a session on this host does not use up: every round either moves
something that waits, or attends to something from outside, or is the last. -/
def rounds (host : Host) : Nat :=
  host.devices.foldl (fun total device => total + device.backlog) 0 +
    host.schedule.foldl (fun total event => total + event.backlog) 0 +
    2 * host.schedule.length + 16

end TerminalRelay.Host
