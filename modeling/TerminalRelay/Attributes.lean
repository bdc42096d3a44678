/-! Terminal attributes: the four words of flags and the control characters, and the raw
mode in which every byte passes unchanged. -/

namespace TerminalRelay

structure Attributes where
  input : BitVec 32
  output : BitVec 32
  control : BitVec 32
  localFlags : BitVec 32
  characters : List UInt8
  deriving DecidableEq, Repr, Inhabited

namespace Attributes

def initial : Attributes where
  input := 1280
  output := 5
  control := 191
  localFlags := 35387
  characters := [0x03, 0x1c, 0x7f, 0x15, 0x04, 0x00, 0x01, 0x00, 0x11, 0x13, 0x1a, 0x00, 0x12,
    0x0f, 0x17, 0x16, 0x00]

/-- The input flags that a snapshot keeps: all but case mapping. -/
def inputFlags : BitVec 32 := 0x7dff

def outputFlags : BitVec 32 := 0xffbf

def localKept : BitVec 32 := 0x1dffb

/-- What a snapshot of the attributes holds: the flags that it keeps and everything else
unchanged. -/
def snapshot (a : Attributes) : Attributes :=
  { a with
    input := a.input &&& inputFlags
    output := a.output &&& outputFlags
    localFlags := a.localFlags &&& localKept }

/-- The input flags that raw mode clears: breaks, parity marks, stripping, changes of
line endings and flow control. -/
def cookedInput : BitVec 32 := 0x5eb

def cookedOutput : BitVec 32 := 0x1

def cookedLocal : BitVec 32 := 0x804b

def characterSize : BitVec 32 := 0x130
def eightBits : BitVec 32 := 0x30

def raw (a : Attributes) : Attributes where
  input := a.input &&& ~~~cookedInput
  output := a.output &&& ~~~cookedOutput
  control := a.control &&& ~~~characterSize ||| eightBits
  localFlags := a.localFlags &&& ~~~cookedLocal
  characters := (a.characters.set 6 1).set 5 0

end Attributes
end TerminalRelay
