/-! The size of a terminal window. -/

namespace TerminalRelay

structure WindowSize where
  columns : UInt16
  rows : UInt16
  pixelWidth : UInt16
  pixelHeight : UInt16
  deriving DecidableEq, Repr, Inhabited

namespace WindowSize

def ofCells (columns rows : UInt16) : WindowSize :=
  ⟨columns, rows, 0, 0⟩

def unset : WindowSize :=
  ofCells 0 0

def fallback : WindowSize :=
  ofCells 80 30

def isUsable (size : WindowSize) : Bool :=
  0 < size.rows && 0 < size.columns

/-- The size that the far side is given: the terminal's own if it reports a usable one. -/
def effective {ε : Type} : Except ε WindowSize → WindowSize
  | .ok size => if size.isUsable then size else fallback
  | .error _ => fallback

def toRecord (size : WindowSize) : UInt16 × UInt16 × UInt16 × UInt16 :=
  (size.rows, size.columns, size.pixelWidth, size.pixelHeight)

def ofRecord : UInt16 × UInt16 × UInt16 × UInt16 → WindowSize
  | (rows, columns, width, height) => ⟨columns, rows, width, height⟩

@[simp] theorem ofRecord_toRecord (size : WindowSize) : ofRecord size.toRecord = size := rfl

def describe (size : WindowSize) : String :=
  "WindowSize \x7b rows: " ++ toString size.rows ++ ", cols: " ++ toString size.columns ++
    ", pixel_width: " ++ toString size.pixelWidth ++ ", pixel_height: " ++
    toString size.pixelHeight ++ " \x7d"

end WindowSize
end TerminalRelay
