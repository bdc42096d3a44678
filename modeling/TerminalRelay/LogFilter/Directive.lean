import TerminalRelay.LogFilter.Pattern
import TerminalRelay.Notice
import TerminalRelay.Text.Alphanumeric
import TerminalRelay.Text.Blank

/-! Directives of a log filter: each one sets a least severe level for the lines that it
concerns. It is written as a level, or as the beginning of the origins that it is about, a
span in brackets with fields in braces, and a level after an equals sign; all of these may
be left out. -/

namespace TerminalRelay

structure FieldDemand where
  name : List Char
  value : Option (List Char)
  deriving DecidableEq, Repr

/-- A directive. Its rank is that of the least severe level that it shows; rank zero shows
nothing. -/
structure Directive where
  origin : Option (List Char)
  span : Option (List Char)
  fields : List FieldDemand
  rank : Nat
  deriving DecidableEq, Repr

inductive DirectiveStage where
  | start
  | levelOrOrigin (offset : Nat)
  | span (offset : Nat)
  | field (offset : Nat)
  | fields
  | origin
  | level (offset : Nat)
  deriving DecidableEq, Repr

namespace Directive

def blank : Directive :=
  ⟨none, none, [], Level.trace.rank⟩

def maxLevel : Nat := 18446744073709551615

def rank? (text : List Char) : Option Nat :=
  match Text.readNumber maxLevel text with
  | .ok number => if number ≤ Level.trace.rank then some number else none
  | .error _ =>
    match (String.ofList text).toLower with
    | "off" => some 0
    | "error" => some Level.error.rank
    | "warn" => some Level.warning.rank
    | "info" => some Level.info.rank
    | "debug" => some Level.debug.rank
    | "trace" => some Level.trace.rank
    | _ => none

def afterBytes : Nat → List Char → Option (List Char)
  | 0, text => some text
  | _ + 1, [] => none
  | count + 1, c :: rest =>
    if count + 1 < c.utf8Size then none else afterBytes (count + 1 - c.utf8Size) rest
  termination_by _ text => text.length

def slice? (text : List Char) (start stop : Nat) : Option (List Char) := do
  let rest ← afterBytes start text
  let after ← afterBytes (stop - start) rest
  some (rest.take (rest.length - after.length))

def isPlainReal (text : List Char) : Bool :=
  let whole := text.takeWhile Text.isDigit
  let rest := text.drop whole.length
  let (fraction, rest) := match rest with
    | '.' :: rest => (rest.takeWhile Text.isDigit, rest.dropWhile Text.isDigit)
    | _ => ([], rest)
  let isExponent : List Char → Bool
    | '+' :: digits | '-' :: digits | digits => !digits.isEmpty && digits.all Text.isDigit
  !(whole ++ fraction).isEmpty && match rest with
    | [] => true
    | c :: exponent => (c = 'e' || c = 'E') && isExponent exponent

def isPositive (text : List Char) : Bool :=
  ["inf", "infinity", "nan"].contains (String.ofList text).toLower || isPlainReal text

def isComparable : List Char → Bool
  | '+' :: rest => isPositive rest
  | text => Pattern.isPattern text

def readField (text : List Char) : Option FieldDemand :=
  let name := text.takeWhile (· ≠ '=')
  match text.drop name.length with
  | [] => if text.isEmpty then none else some ⟨name, none⟩
  | _ :: rest =>
    let value := rest.takeWhile (· ≠ '=')
    if isComparable value then some ⟨name, some value⟩ else none

def mayBegin (c : Char) : Bool :=
  Text.isAlphanumeric c || c = '-' || c = ':' || c = '_'

def step (text : List Char) (offset : Nat) (c : Char) (directive : Directive) :
    DirectiveStage → Option (Directive × DirectiveStage)
  | .start =>
    if c = '[' then some (directive, .span (offset + 1))
    else if mayBegin c then some (directive, .levelOrOrigin offset)
    else none
  | .levelOrOrigin start =>
    if c = '=' || c = '[' then do
      let origin ← slice? text start offset
      some ({ directive with origin := some origin },
        if c = '=' then .level (offset + 1) else .span (offset + 1))
    else some (directive, .levelOrOrigin start)
  | .span start =>
    if c = ']' then do
      some ({ directive with span := some (← slice? text start offset) }, .origin)
    else if c = '\x7b' then do
      let name ← slice? text start offset
      some ({ directive with span := if name.isEmpty then none else some name },
        .field (offset + 1))
    else some (directive, .span start)
  | .field start =>
    if c = '\x7d' then do
      let demand ← readField (← slice? text start offset)
      some ({ directive with fields := directive.fields ++ [demand] }, .fields)
    else some (directive, .field start)
  | .fields => if c = ']' then some (directive, .origin) else none
  | .origin => if c = '=' then some (directive, .level (offset + 1)) else none
  | .level start => some (directive, .level start)

def steps (text : List Char) :
    Nat → Directive → DirectiveStage → List Char → Option (Directive × DirectiveStage)
  | _, directive, stage, [] => some (directive, stage)
  | offset, directive, stage, c :: rest => do
    let (directive, stage) ← step text offset c directive stage
    steps text (offset + c.utf8Size) directive stage rest

def finish (text : List Char) (directive : Directive) : DirectiveStage → Option Directive
  | .levelOrOrigin start => do
    let last ← afterBytes start text
    match rank? last with
    | some rank => some { directive with rank := rank }
    | none => some { directive with origin := some last }
  | .level start => do
    let last ← afterBytes start text
    if last.isEmpty then some directive
    else some { directive with rank := ← rank? last }
  | .origin => some directive
  | .start | .span _ | .field _ | .fields => none

/-- Reads a directive. The characters are looked at without the blanks at both ends, but
what they mark off is taken from the whole text at the same offsets. -/
def parse? (text : List Char) : Option Directive := do
  let (directive, stage) ← steps text 0 blank .start (Text.trim text)
  finish text directive stage

/-- Whether a directive could concern lines: one about a span or about the value of a field
concerns none, for no line is written inside a span. -/
def isStatic (directive : Directive) : Bool :=
  directive.span.isNone && directive.fields.all (·.value.isNone)

def lineField : List Char :=
  "message".toList

def concerns (directive : Directive) (origin : String) : Bool :=
  directive.isStatic && directive.fields.all (·.name = lineField)
    && (directive.origin.getD []).isPrefixOf origin.toList

def originWeight (directive : Directive) : Nat :=
  match directive.origin with
  | none => 0
  | some start => (String.ofList start).utf8ByteSize + 1

/-- Whether a directive is at least as specific as another one: first the origin counts,
then the number of fields. -/
def isAsSpecificAs (directive other : Directive) : Bool :=
  other.originWeight < directive.originWeight ||
    other.originWeight = directive.originWeight && other.fields.length ≤ directive.fields.length

end Directive
end TerminalRelay
