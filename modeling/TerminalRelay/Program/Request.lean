import TerminalRelay.Attributes
import TerminalRelay.Notice
import TerminalRelay.Signal

/-! What the program asks of the host it runs on, one request at a time, and what the host
may answer. A request is atomic: whatever else happens on the host happens between two of
them. -/

namespace TerminalRelay

inductive Access where
  | reading
  | writing
  deriving DecidableEq, Repr

/-- The pty slave as the standard streams of a child, which then also gets a session of its
own with the slave as its terminal. -/
structure ChildStreams where
  input : Descriptor
  output : Descriptor
  error : Descriptor
  deriving DecidableEq, Repr

def ptyVariable : String :=
  "REPTYR_PTY"

structure Launch where
  program : Bytes
  arguments : List Bytes
  slave : String
  streams : Option ChildStreams
  deriving DecidableEq, Repr

structure Readiness where
  input : Bool
  target : Bool
  deriving DecidableEq, Repr

inductive Request where
  | readAttributes (device : Descriptor)
  | writeAttributes (device : Descriptor) (attributes : Attributes)
  | readSize (device : Descriptor)
  | writeSize (device : Descriptor) (size : WindowSize)
  | block (signals : SignalSet)
  | setMask (signals : SignalSet)
  /-- Makes a new flag that the resize signal raises. -/
  | watchResize
  | unwatchResize (flag : Nat)
  | takeFlag (flag : Nat)
  /-- Waits, with just these signals blocked, for the near or the far side to become ready. -/
  | wait (near far : Descriptor) (mask : SignalSet)
  | read (source : Descriptor) (limit : Nat)
  | write (sink : Descriptor) (chunk : Bytes)
  | openMaster
  | grantSlave (master : Descriptor)
  | unlockSlave (master : Descriptor)
  | slaveName (master : Descriptor)
  | closeOnExec (master : Descriptor)
  | openSlave (name : String) (access : Access)
  | duplicate (descriptor : Descriptor)
  | start (launch : Launch)
  | probe (pid : Pid)
  | readFile (path : String)
  | refusesPty
  | attach (pid : Pid) (slave : String) (forceStdio : Bool)
  | steal (pid : Pid)
  | explain
  | print (text : Bytes)
  | flush
  | complain (text : String)
  | startLog (level : Level)
  | log (notice : Notice)
  deriving DecidableEq

@[reducible] def Request.Answer : Request → Type
  | readAttributes _ => Except Errno Attributes
  | writeAttributes _ _ => Except Errno Unit
  | readSize _ => Except Errno WindowSize
  | writeSize _ _ => Except Errno Unit
  | block _ => Except Errno SignalSet
  | setMask _ => Except Errno Unit
  | watchResize => Except IoFailure Nat
  | unwatchResize _ => Unit
  | takeFlag _ => Bool
  | wait _ _ _ => Except Errno Readiness
  | read _ _ => Except Errno Bytes
  | write _ _ => Except Errno Nat
  | openMaster => Except Errno Descriptor
  | grantSlave _ => Except Errno Unit
  | unlockSlave _ => Except Errno Unit
  | slaveName _ => Except Errno String
  | closeOnExec _ => Except Errno Unit
  | openSlave _ _ => Except IoFailure Descriptor
  | duplicate _ => Except IoFailure Descriptor
  | start _ => Except IoFailure Nat
  | probe _ => Except Errno Unit
  | readFile _ => Except IoFailure Bytes
  | refusesPty => Option Fault
  | attach _ _ _ => Except Errno Unit
  | steal _ => Except Errno Descriptor
  | explain => Unit
  | print _ => Except IoFailure Nat
  | flush => Except IoFailure Unit
  | complain _ => Unit
  | startLog _ => Unit
  | log _ => Unit

end TerminalRelay
