/-! Text as bytes. Arguments and file contents arrive as bytes that need not be text;
`pieces` splits them into characters and the ill-formed stretches between them, and every
reading of bytes as text goes through it. -/

namespace TerminalRelay

abbrev Bytes := List UInt8

namespace Text

inductive Piece where
  | char (c : Char)
  | invalid (bytes : Bytes)
  deriving DecidableEq, Repr

/-- A character begun and not yet complete: the bytes taken, their bits, how many bytes
are missing, and the range in which the next one must lie. -/
structure Begun where
  taken : Bytes
  value : Nat
  missing : Nat
  low : UInt8
  high : UInt8

/-- What a byte between characters yields: a character, the beginning of one, or an
ill-formed stretch of its own. The ranges leave out overlong forms, surrogates and values
past the last code point. -/
def start (byte : UInt8) : List Piece × Option Begun :=
  let begin (missing value : Nat) (low high : UInt8) : List Piece × Option Begun :=
    ([], some ⟨[byte], value, missing, low, high⟩)
  if byte < 0x80 then ([.char (Char.ofNat byte.toNat)], none)
  else if byte < 0xC2 then ([.invalid [byte]], none)
  else if byte < 0xE0 then begin 1 (byte.toNat - 0xC0) 0x80 0xBF
  else if byte = 0xE0 then begin 2 0 0xA0 0xBF
  else if byte = 0xED then begin 2 0xD 0x80 0x9F
  else if byte < 0xF0 then begin 2 (byte.toNat - 0xE0) 0x80 0xBF
  else if byte = 0xF0 then begin 3 0 0x90 0xBF
  else if byte < 0xF4 then begin 3 (byte.toNat - 0xF0) 0x80 0xBF
  else if byte = 0xF4 then begin 3 4 0x80 0x8F
  else ([.invalid [byte]], none)

/-- What a byte yields after the character begun so far. One that cannot continue it ends
an ill-formed stretch and is read afresh. -/
def advance : Option Begun → UInt8 → List Piece × Option Begun
  | none, byte => start byte
  | some begun, byte =>
    if begun.low ≤ byte && byte ≤ begun.high then
      let value := begun.value * 64 + (byte.toNat - 0x80)
      if begun.missing = 1 then ([.char (Char.ofNat value)], none)
      else ([], some ⟨begun.taken ++ [byte], value, begun.missing - 1, 0x80, 0xBF⟩)
    else
      let (found, next) := start byte
      (.invalid begun.taken :: found, next)

def piecesAfter : Option Begun → Bytes → List Piece
  | none, [] => []
  | some begun, [] => [.invalid begun.taken]
  | state, byte :: rest =>
    let (found, next) := advance state byte
    found ++ piecesAfter next rest

def pieces (bytes : Bytes) : List Piece :=
  piecesAfter none bytes

def Piece.char? : Piece → Option Char
  | .char c => some c
  | .invalid _ => none

def decode? (bytes : Bytes) : Option (List Char) :=
  (pieces bytes).mapM Piece.char?

/-- The bytes as text in any case: each ill-formed stretch shows as one replacement
character. -/
def lossy (bytes : Bytes) : List Char :=
  (pieces bytes).map fun piece => piece.char?.getD '\uFFFD'

def encode (text : String) : Bytes :=
  text.toUTF8.toList

def display (bytes : Bytes) : String :=
  String.ofList (lossy bytes)

end Text
end TerminalRelay
