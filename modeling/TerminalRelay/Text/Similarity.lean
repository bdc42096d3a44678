/-! Jaro similarity: how alike two words are, by the characters that they share at nearby
places and how many of those are out of order. -/

namespace TerminalRelay.Text

def reach (a b : List Char) : Nat :=
  max a.length b.length / 2 - 1

/-- Marks the first free place of `b` in `[low, high)` that holds `c`; `b` pairs each
character with whether its place is taken. -/
def claim (c : Char) (low high : Nat) : Nat → List (Char × Bool) → Option (List (Char × Bool))
  | _, [] => none
  | place, (other, taken) :: rest =>
    if high ≤ place then none
    else if low ≤ place && c = other && !taken then some ((other, true) :: rest)
    else (claim c low high (place + 1) rest).map ((other, taken) :: ·)

def pairUp (range : Nat) :
    Nat → List Char → List (Char × Bool) → List Char × List (Char × Bool)
  | _, [], b => ([], b)
  | place, c :: rest, b =>
    match claim c (place - range) (place + range + 1) 0 b with
    | some marked =>
      let (shared, final) := pairUp range (place + 1) rest marked
      (c :: shared, final)
    | none => pairUp range (place + 1) rest b

def sharing (a b : List Char) : Nat × Nat :=
  let (fromA, marked) := pairUp (reach a b) 0 a (b.map (·, false))
  let fromB := (marked.filter (·.2)).map (·.1)
  (fromA.length, ((fromA.zip fromB).filter fun pair => pair.1 != pair.2).length / 2)

/-- Whether the similarity of two words is seven tenths or more. With `m` shared
characters, `t` of them out of order, and words of lengths `p` and `q`, it is a third of
`m/p + m/q + (m - t)/m`. -/
def areAlike (a b : List Char) : Bool :=
  let (m, t) := sharing a b
  let p := a.length
  let q := b.length
  if p = 0 && q = 0 then true
  else m != 0 && 21 * (m * p * q) ≤ 10 * (m * m * q + m * m * p + (m - t) * p * q)

end TerminalRelay.Text
