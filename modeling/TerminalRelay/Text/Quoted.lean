import TerminalRelay.Text.Hidden
import TerminalRelay.Text.Encoding

/-! Quoted text: how a message shows an argument so that the argument can be told apart
from the words around it and stays on one line. -/

namespace TerminalRelay.Text

def hexDigits (n : Nat) : List Char :=
  Nat.toDigits 16 n

def escapeCode (c : Char) : List Char :=
  ['\x5c', 'u', '\x7b'] ++ hexDigits c.toNat ++ ['\x7d']

def escape (c : Char) : List Char :=
  if c = '\x00' then ['\x5c', '0']
  else if c = '\t' then ['\x5c', 't']
  else if c = '\n' then ['\x5c', 'n']
  else if c = '\r' then ['\x5c', 'r']
  else if c = '\x22' then ['\x5c', '\x22']
  else if c = '\x5c' then ['\x5c', '\x5c']
  else if isHidden c then escapeCode c
  else [c]

def quote (text : List Char) : List Char :=
  '\x22' :: text.flatMap escape ++ ['\x22']

/-- The form of one piece of an argument that need not be text: an apostrophe is escaped
as well, and a byte outside any character is spelled out. -/
def escapePiece : Piece → List Char
  | .char c => if c = '\x27' then ['\x5c', '\x27'] else escape c
  | .invalid bytes => bytes.flatMap fun byte =>
      ['\x5c', 'x'] ++ ((if byte < 16 then ['0'] else []) ++ hexDigits byte.toNat).map Char.toUpper

def quoteBytes (bytes : List UInt8) : List Char :=
  '\x22' :: (pieces bytes).flatMap escapePiece ++ ['\x22']

end TerminalRelay.Text
