/-! # Hardware constants

The fixed sizes and rates of the machine and the glyphs that every program finds in low memory.
-/

namespace Chip8

/-- The number of cells that an address can name. -/
def addressSpace : Nat := 0x1000

def lowWord (number : Int) : Int := number % 0x10000

/-- The cell where a program is placed and where execution starts. -/
def programStart : Nat := 0x200

/-- The most bytes that a program may have: all cells from the start of programs to the end. -/
def maxProgramSize : Nat := addressSpace - programStart

/-- The number of return addresses that the stack of the machine holds. -/
def stackCapacity : Nat := 128

def screenWidth : Nat := 64

def screenHeight : Nat := 32

def ticksPerSecond : Float := 60

/-- The instructions executed in a second unless a setting says otherwise. -/
def defaultRate : Float := 1000

def fontStart : Nat := 0x000

def glyphSize : Nat := 5

/-- The glyphs of the sixteen hexadecimal digits, five rows each. -/
def font : List UInt8 :=
  [0xF0, 0x90, 0x90, 0x90, 0xF0,
   0x20, 0x60, 0x20, 0x20, 0x70,
   0xF0, 0x10, 0xF0, 0x80, 0xF0,
   0xF0, 0x10, 0xF0, 0x10, 0xF0,
   0x90, 0x90, 0xF0, 0x10, 0x10,
   0xF0, 0x80, 0xF0, 0x10, 0xF0,
   0xF0, 0x80, 0xF0, 0x90, 0xF0,
   0xF0, 0x10, 0x20, 0x40, 0x40,
   0xF0, 0x90, 0xF0, 0x90, 0xF0,
   0xF0, 0x90, 0xF0, 0x10, 0xF0,
   0xF0, 0x90, 0xF0, 0x90, 0x90,
   0xE0, 0x90, 0xE0, 0x90, 0xE0,
   0xF0, 0x80, 0x80, 0x80, 0xF0,
   0xE0, 0x90, 0x90, 0x90, 0xE0,
   0xF0, 0x80, 0xF0, 0x80, 0xF0,
   0xF0, 0x80, 0xF0, 0x80, 0x80]

end Chip8
