import TerminalRelay.Text.Encoding

/-! The flags of the command line, and the marks that an argument of flags is made of. -/

namespace TerminalRelay.CommandLine

inductive Flag where
  | openPty
  | redirect
  | forceStdio
  | steal
  | verbose
  deriving DecidableEq, Repr

namespace Flag

def letter : Flag → Char
  | openPty => 'l'
  | redirect => 'L'
  | forceStdio => 's'
  | steal => 'T'
  | verbose => 'V'

def ofLetter? : Char → Option Flag
  | 'l' => some openPty
  | 'L' => some redirect
  | 's' => some forceStdio
  | 'T' => some steal
  | 'V' => some verbose
  | _ => none

def spelling (flag : Flag) : String :=
  String.ofList ['-', flag.letter]

theorem ofLetter?_letter (flag : Flag) : ofLetter? flag.letter = some flag := by
  cases flag <;> rfl

theorem letter_of_ofLetter? {c : Char} {flag : Flag} (found : ofLetter? c = some flag) :
    flag.letter = c := by
  unfold ofLetter? at found
  split at found <;> simp_all [letter] <;> subst found <;> rfl

def opens (flag : Flag) : Bool :=
  flag = openPty || flag = redirect

end Flag

/-- One mark of an argument of flags: a letter, or a word after two dashes. -/
inductive Mark where
  | letter (c : Char)
  | word (text : List Char)
  deriving DecidableEq, Repr

def marks (argument : Bytes) : List Mark :=
  match Text.decode? argument with
  | some ('-' :: '-' :: word) => [.word word]
  | some ('-' :: letters) => letters.map .letter
  | _ => []

end TerminalRelay.CommandLine
