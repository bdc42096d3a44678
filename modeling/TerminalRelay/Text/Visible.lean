import TerminalRelay.Text.Encoding

/-! The visible part of text. Text from outside may hold characters that control a terminal,
alone or as sequences begun by an escape; what is left without them can be shown safely. -/

namespace TerminalRelay.Text

inductive Sequence where
  | none
  | escape
  | markedEscape
  | control
  | device
  | deviceParameters
  | deviceMarks
  | content
  | setting
  deriving DecidableEq, Repr

def isLayout (c : Char) : Bool :=
  c = '\t' || c = '\n' || c = '\x0c' || c = '\r'

def isBetween (low c high : Char) : Bool :=
  low ≤ c && c ≤ high

def endsContent (c : Char) : Bool :=
  (encode (String.singleton c)).contains 0x9c

/-- What has begun after one more character, and whether that character is visible. -/
def Sequence.next (begun : Sequence) (c : Char) : Sequence × Bool :=
  if c = '\x18' || c = '\x1a' then (.none, false)
  else if c = '\x1b' then (.escape, false)
  else match begun with
    | .none => (.none, isLayout c || '\x20' ≤ c && c ≠ '\x7f')
    | .escape =>
      if isLayout c then (.none, true)
      else if isBetween '\x20' c '\x2f' then (.markedEscape, false)
      else if c = '[' then (.control, false)
      else if c = ']' then (.setting, false)
      else if c = 'P' then (.device, false)
      else if c = 'X' || c = '^' || c = '_' then (.content, false)
      else if isBetween '\x30' c '\x7e' then (.none, false)
      else (begun, false)
    | .markedEscape =>
      if isLayout c then (.none, true)
      else if isBetween '\x30' c '\x7e' then (.none, false)
      else (begun, false)
    | .control =>
      if isLayout c then (.none, true)
      else if isBetween '\x40' c '\x7e' then (.none, false)
      else (begun, false)
    | .device =>
      if isBetween '\x20' c '\x2f' then (.deviceMarks, false)
      else if isBetween '\x30' c '\x3f' then (.deviceParameters, false)
      else if isBetween '\x40' c '\x7e' then (.content, false)
      else (begun, false)
    | .deviceParameters =>
      if isBetween '\x20' c '\x2f' then (.deviceMarks, false)
      else if isBetween '\x3c' c '\x7e' then (.content, false)
      else (begun, false)
    | .deviceMarks => (if isBetween '\x30' c '\x7e' then .content else begun, false)
    | .content => (if endsContent c then .none else begun, false)
    | .setting => (if c = '\x07' then .none else begun, false)

def visibleAfter : Sequence → List Char → List Char
  | _, [] => []
  | begun, c :: rest =>
    match begun.next c with
    | (next, true) => c :: visibleAfter next rest
    | (next, false) => visibleAfter next rest

def visible (text : List Char) : List Char :=
  visibleAfter .none text

end TerminalRelay.Text
