/-! Sets of signals, as a thread blocks them. -/

namespace TerminalRelay

/-- A set of signals: signal `n` is in it if bit `n - 1` is set. -/
abbrev SignalSet := BitVec 64

def signalNames : List String := [
  "SIGHUP", "SIGINT", "SIGQUIT", "SIGILL", "SIGTRAP", "SIGABRT", "SIGBUS", "SIGFPE",
  "SIGKILL", "SIGUSR1", "SIGSEGV", "SIGUSR2", "SIGPIPE", "SIGALRM", "SIGTERM", "SIGSTKFLT",
  "SIGCHLD", "SIGCONT", "SIGSTOP", "SIGTSTP", "SIGTTIN", "SIGTTOU", "SIGURG", "SIGXCPU",
  "SIGXFSZ", "SIGVTALRM", "SIGPROF", "SIGWINCH", "SIGIO", "SIGPWR", "SIGSYS"]

namespace SignalSet

def empty : SignalSet := 0

def single (number : Nat) : SignalSet :=
  1#64 <<< (number - 1)

def resize : SignalSet :=
  single 28

def union (a b : SignalSet) : SignalSet :=
  a ||| b

def without (a b : SignalSet) : SignalSet :=
  a &&& ~~~b

def hasResize (a : SignalSet) : Bool :=
  a.getLsbD 27

def ofNames (names : List String) : SignalSet :=
  names.foldl (fun set name =>
    match signalNames.findIdx? (· = name) with
    | some index => set.union (single (index + 1))
    | none => set) empty

def names (a : SignalSet) : List String :=
  (signalNames.zipIdx.filter fun entry => a.getLsbD entry.2).map (·.1)

end SignalSet
end TerminalRelay
