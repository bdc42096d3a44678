import TerminalRelay.LogFilter.Directive
import TerminalRelay.Text.Quoted

/-! Filters of the log: which of its lines are shown, and how. -/

namespace TerminalRelay

abbrev LogFilter := List Directive

namespace LogFilter

def splitCommas (text : List Char) : List (List Char) :=
  (text.foldr (fun c parts => match parts with
    | [] => if c = ',' then [[], []] else [[c]]
    | part :: rest => if c = ',' then [] :: part :: rest else (c :: part) :: rest)
    []).filter (!·.isEmpty)

def parse? (text : String) : Option LogFilter :=
  (splitCommas text.toList).mapM Directive.parse?

def upTo (level : Level) : LogFilter :=
  [{ Directive.blank with rank := level.rank }]

/-- The rank for an origin: that of the most specific directive about it, of two equal ones
the later. Without any nothing is shown. -/
def rankFor (filter : LogFilter) (origin : String) : Nat :=
  (filter.foldl (fun (best : Option Directive) directive =>
    if directive.concerns origin then
      match best with
      | some held => if directive.isAsSpecificAs held then some directive else some held
      | none => some directive
    else best) none).elim 0 (·.rank)

def shows (filter : LogFilter) (notice : Notice) : Bool :=
  notice.level.rank ≤ filter.rankFor notice.origin

end LogFilter

def logCharacter (c : Char) : List Char :=
  if c = '\x1b' || c = '\x07' || c = '\x08' || c = '\x0c' || c = '\x7f' then
    ['\x5c', 'x'] ++ (if c.toNat < 16 then ['0'] else []) ++ Nat.toDigits 16 c.toNat
  else if 0x80 ≤ c.toNat && c.toNat ≤ 0x9f then Text.escapeCode c
  else [c]

def Notice.logLine (notice : Notice) : String :=
  let name := notice.level.name
  String.ofList (List.replicate (5 - name.length) ' ') ++ name ++ " " ++
    String.ofList (notice.text.toList.flatMap logCharacter) ++ "\n"

end TerminalRelay
