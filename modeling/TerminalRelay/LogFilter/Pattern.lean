import TerminalRelay.Text.Decimal

/-! Patterns that a filter may compare a field with. A filter only has to tell a pattern
from text that is none: no line is ever compared with one. Characters are never told apart
by their properties, so a pattern that asks for one, or for a letter in either case, is
none. -/

namespace TerminalRelay.Pattern

inductive Escape where
  | character (c : Char) (rest : List Char)
  | place (rest : List Char)
  | unknown
  deriving DecidableEq, Repr

def hexValue? (c : Char) : Option Nat :=
  if Text.isDigit c then some (c.toNat - '0'.toNat)
  else if 'a' ≤ c && c ≤ 'f' then some (c.toNat - 'a'.toNat + 10)
  else if 'A' ≤ c && c ≤ 'F' then some (c.toNat - 'A'.toNat + 10)
  else none

def codePoint (count : Nat) (text : List Char) : Escape :=
  match (text.take count).mapM hexValue? with
  | none => .unknown
  | some digits =>
    let code := digits.foldl (fun code digit => code * 16 + digit) 0
    if digits.length = count && (code < 0xd800 || 0xdfff < code && code < 0x110000) then
      .character (Char.ofNat code) (text.drop count)
    else .unknown

def readEscape : List Char → Escape
  | [] => .unknown
  | c :: rest =>
    match c with
    | 'a' => .character '\x07' rest
    | 'f' => .character '\x0c' rest
    | 't' => .character '\t' rest
    | 'n' => .character '\n' rest
    | 'r' => .character '\r' rest
    | 'v' => .character '\x0b' rest
    | 'A' | 'z' => .place rest
    | 'x' => codePoint 2 rest
    | 'u' => codePoint 4 rest
    | 'U' => codePoint 8 rest
    | '<' | '>' => .unknown
    | _ => if c.toNat < 0x80 && !c.isAlphanum then .character c rest else .unknown

def readMember : List Char → Option (Char × List Char)
  | '\x5c' :: rest =>
    match readEscape rest with
    | .character c rest => some (c, rest)
    | _ => none
  | c :: rest => some (c, rest)
  | [] => none

def classNames : List String :=
  ["alnum", "alpha", "ascii", "blank", "cntrl", "digit", "graph", "lower", "print", "punct",
    "space", "upper", "word", "xdigit"]

def namedClass? (text : List Char) : Option (List Char) :=
  match text with
  | ':' :: rest =>
    let rest := if rest.head? = some '^' then rest.drop 1 else rest
    let name := rest.takeWhile (· ≠ ':')
    match rest.drop name.length with
    | ':' :: ']' :: after =>
      if classNames.contains (String.ofList name) then some after else none
    | _ => none
  | _ => none

def classBody (text : List Char) : List Char :=
  let text := if text.head? = some '^' then text.drop 1 else text
  match text.dropWhile (· = '-') with
  | ']' :: rest => if text.head? = some '-' then ']' :: rest else rest
  | rest => rest

def readClass : Nat → Nat → List Char → Option (List Char)
  | 0, _, _ => none
  | _ + 1, _, [] => none
  | steps + 1, depth, '[' :: rest =>
    match namedClass? rest with
    | some after => readClass steps depth after
    | none => readClass steps (depth + 1) (classBody rest)
  | steps + 1, depth, ']' :: rest =>
    if depth = 0 then some rest else readClass steps (depth - 1) rest
  | steps + 1, depth, '&' :: '&' :: rest => readClass steps depth rest
  | steps + 1, depth, '-' :: '-' :: rest => readClass steps depth rest
  | steps + 1, depth, '~' :: '~' :: rest => readClass steps depth rest
  | steps + 1, depth, text => do
    let (low, rest) ← readMember text
    match rest with
    | '-' :: ']' :: _ | '-' :: '-' :: _ => readClass steps depth rest
    | '-' :: rest =>
      let (high, rest) ← readMember rest
      if low ≤ high then readClass steps depth rest else none
    | _ => readClass steps depth rest

def isSetting (c : Char) : Bool :=
  c = 'm' || c = 's' || c = 'U' || c = 'u' || c = 'x' || c = 'R'

def areSettings (text : List Char) : Bool :=
  let on := text.takeWhile (· ≠ '-')
  let off := (text.drop on.length).drop 1
  (on ++ off).Nodup && (on ++ off).all isSetting && (on.length = text.length || !off.isEmpty)
    && !off.contains 'u'

def isNameStart (c : Char) : Bool :=
  c.isAlpha || c = '_' || 0x80 ≤ c.toNat

def isNameRest (c : Char) : Bool :=
  isNameStart c || Text.isDigit c || c = '.' || c = '[' || c = ']'

inductive Opening where
  | group (name : List Char) (rest : List Char)
  | settings (rest : List Char)
  | unknown
  deriving DecidableEq, Repr

def readName (text : List Char) : Opening :=
  let name := text.takeWhile (· ≠ '>')
  match name, text.drop name.length with
  | c :: others, _ :: rest =>
    if isNameStart c && others.all isNameRest then .group name rest else .unknown
  | _, _ => .unknown

def readOpening : List Char → Opening
  | '?' :: 'P' :: '<' :: rest => readName rest
  | '?' :: '<' :: rest => readName rest
  | '?' :: rest =>
    let given := rest.takeWhile fun c => c ≠ ':' && c ≠ ')'
    match rest.drop given.length with
    | ':' :: after => if areSettings given then .group [] after else .unknown
    | _ :: after => if areSettings given && !given.isEmpty then .settings after else .unknown
    | [] => .unknown
  | rest => .group [] rest

/-- Reads a pattern inside so many groups with these names; `ready` says that something
stands before that may be repeated. -/
def readFrom : Nat → Nat → List (List Char) → Bool → List Char → Bool
  | 0, _, _, _, _ => false
  | _ + 1, depth, _, _, [] => depth = 0
  | steps + 1, depth, names, ready, c :: rest =>
    match c with
    | '\x5c' =>
      match readEscape rest with
      | .character _ after | .place after => readFrom steps depth names true after
      | .unknown => false
    | '[' =>
      match readClass (rest.length + 1) 0 (classBody rest) with
      | some after => readFrom steps depth names true after
      | none => false
    | '(' =>
      match readOpening rest with
      | .group [] after => readFrom steps (depth + 1) names false after
      | .group name after =>
        !names.contains name && readFrom steps (depth + 1) (name :: names) false after
      | .settings after => readFrom steps depth names false after
      | .unknown => false
    | ')' => depth ≠ 0 && readFrom steps (depth - 1) names true rest
    | '|' => readFrom steps depth names false rest
    | '*' | '+' | '?' => ready && readFrom steps depth names true rest
    | '\x7b' => false
    | _ => readFrom steps depth names true rest

/-- Whether text is a pattern. A count of repetitions is never complete, for the brace that
would end it ends the pattern. -/
def isPattern (text : List Char) : Bool :=
  readFrom (text.length + 1) 0 [] false text

end TerminalRelay.Pattern
