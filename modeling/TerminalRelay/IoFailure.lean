import TerminalRelay.Errno

/-! Failures of files, streams and programs: an error number of the system, or a kind of
failure with or without a text of its own. -/

namespace TerminalRelay

inductive FailureKind where
  | notFound
  | permissionDenied
  | brokenPipe
  | invalidInput
  | invalidData
  | unexpectedEnd
  | writeZero
  | interrupted
  | notDirectory
  | isDirectory
  | tooManyFiles
  | other
  | unlisted
  deriving DecidableEq, Repr

namespace FailureKind

def description : FailureKind → String
  | notFound => "entity not found"
  | permissionDenied => "permission denied"
  | brokenPipe => "broken pipe"
  | invalidInput => "invalid input parameter"
  | invalidData => "invalid data"
  | unexpectedEnd => "unexpected end of file"
  | writeZero => "write zero"
  | interrupted => "operation interrupted"
  | notDirectory => "not a directory"
  | isDirectory => "is a directory"
  | tooManyFiles => "too many open files"
  | other => "other error"
  | unlisted => "uncategorized error"

def ofNumber : Int → FailureKind
  | 1 | 13 => permissionDenied
  | 2 => notFound
  | 4 => interrupted
  | 20 => notDirectory
  | 21 => isDirectory
  | 22 => invalidInput
  | 24 => tooManyFiles
  | 32 => brokenPipe
  | _ => unlisted

end FailureKind

/-- Why a file, stream or program operation failed. -/
inductive IoFailure where
  | os (number : Int)
  | bare (kind : FailureKind)
  | worded (kind : FailureKind) (text : String)
  deriving DecidableEq, Repr

namespace IoFailure

def ofErrno (e : Errno) : IoFailure :=
  .os e.number

def kind : IoFailure → FailureKind
  | os number => FailureKind.ofNumber number
  | bare kind => kind
  | worded kind _ => kind

def systemText (number : Int) : String :=
  if number = 0 then "Success"
  else match ErrnoEntry.find? number.toNat with
    | some entry => entry.text
    | none => "Unknown error " ++ toString number

def message : IoFailure → String
  | os number => systemText number ++ " (os error " ++ toString number ++ ")"
  | bare kind => kind.description
  | worded _ text => text

def isInterruption (failure : IoFailure) : Bool :=
  failure.kind = .interrupted

end IoFailure
end TerminalRelay
