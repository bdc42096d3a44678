import TerminalRelay.IoFailure
import TerminalRelay.Text.Encoding

/-! The files of a model host, and the walk along a path to a program. -/

namespace TerminalRelay.Host

inductive Node where
  | directory
  | program
  | plain
  | link (target : Bytes)
  deriving DecidableEq, Repr

/-- The files of a host: what is where, by the steps from the root, and where programs are
looked for. -/
structure Files where
  look : List Bytes → Option Node
  here : List Bytes
  programs : List (List Bytes)

def Files.none : Files :=
  ⟨fun _ => .none, [], []⟩

def slash : UInt8 := 0x2f

def components : Bytes → List Bytes
  | [] => [[]]
  | c :: rest =>
    if c = slash then [] :: components rest
    else match components rest with
      | [] => [[c]]
      | first :: others => (c :: first) :: others

def maxName : Nat := 255
def maxPath : Nat := 4095
def maxLinks : Nat := 40

/-- Walks on from a directory: where that leads, with all links in the way followed, and what
is there. -/
def Files.walk (files : Files) : Nat → List Bytes → List Bytes → Except Errno (List Bytes × Node)
  | _, taken, [] => .ok (taken, .directory)
  | links, taken, step :: rest =>
    if step = [] || step = [0x2e] then files.walk links taken rest
    else if step = [0x2e, 0x2e] then files.walk links taken.dropLast rest
    else if maxName < step.length then .error .nameTooLong
    else match files.look (taken ++ [step]) with
      | .none => .error .noEntry
      | some .directory => files.walk links (taken ++ [step]) rest
      | some (.link target) =>
        match links with
        | 0 => .error .tooManyLinks
        | links + 1 =>
          files.walk links (if target.head? = some slash then [] else taken)
            (components target ++ rest)
      | some node => if rest.isEmpty then .ok (taken ++ [step], node) else .error .notDirectory
  termination_by links _ steps => (links, steps.length)

def Files.resolve (files : Files) (path : Bytes) : Except Errno (List Bytes × Node) :=
  if path = [] then .error .noEntry
  else if maxPath < path.length then .error .nameTooLong
  else files.walk maxLinks (if path.head? = some slash then [] else files.here) (components path)

def programAt : Except Errno (List Bytes × Node) → Except Errno Bytes
  | .ok (steps, .program) => .ok (steps.getLast?.getD [])
  | .ok _ => .error .accessDenied
  | .error e => .error e

/-- The name of the program that a command names. A name without a slash is looked for in one
directory after the other; what cannot be run there is passed over, but told in the end. -/
def Files.find (files : Files) (command : Bytes) : Except Errno Bytes :=
  if command = [] then .error .noEntry
  else if command.contains slash then programAt (files.resolve command)
  else if maxName < command.length then .error .nameTooLong
  else
    let found := files.programs.map fun place =>
      programAt (files.walk maxLinks [] (place ++ [command]))
    match found.findSome? Except.toOption with
    | some name => .ok name
    | .none =>
      .error (if found.any (· matches .error .accessDenied) then .accessDenied else .noEntry)

def maxArgument : Nat := 131071
def maxArguments : Nat := 2093056

def Files.prepare (files : Files) (command : Bytes) (arguments : List Bytes) :
    Except IoFailure Bytes :=
  let all := command :: arguments
  if all.any (·.contains 0) then
    .error (.worded .invalidInput "nul byte found in provided data")
  else match files.find command with
    | .error e => .error (.ofErrno e)
    | .ok name =>
      let room := all.foldl (fun total word => total + word.length + 9) 0
      if maxArguments < room || all.any (maxArgument < ·.length) then
        .error (.ofErrno .argumentsTooLong)
      else .ok name

end TerminalRelay.Host
