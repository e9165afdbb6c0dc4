import Chip8.Display
import Chip8.Settings.Conversion

/-! # The screen

A window that shows each pixel of the display as a square block of one of two colours.
-/

namespace Chip8

/-- Why a window cannot be opened or painted. -/
inductive ScreenError where
  /-- The sides are not numbers that the host can hold. -/
  | unusableSize
  | negativeSize
  | tooLarge
  /-- The window has a size of its own, into which no picture fits. -/
  | otherSize
  | invalidColor
deriving DecidableEq, Repr

def ScreenError.message : ScreenError → String
  | .unusableSize => "size must be two numbers"
  | .negativeSize => "Cannot set negative sized display mode"
  | .tooLarge => "Window is too large."
  | .otherSize => "Destination surface not the given width or height."
  | .invalidColor => "invalid color argument"

/-- The window: the side of a block and the colours of lit and of dark pixels. -/
structure Screen where
  scale : Int
  onColor : Color
  offColor : Color
deriving DecidableEq, Repr

namespace Screen

def maxSide : Int := 16384

/-- A side of a window as the host keeps it: the low thirty-two bits of a number of sixty-four. -/
def hostSide? (side : Int) : Option Int :=
  if -0x8000000000000000 ≤ side ∧ side < 0x8000000000000000 then some (side.bmod 0x100000000)
  else none

def size (screen : Screen) : Int × Int := (screenWidth * screen.scale, screenHeight * screen.scale)

def open? (scale : Int) (onColor offColor : Color) : Except ScreenError Screen :=
  let screen : Screen := ⟨scale, onColor, offColor⟩
  match hostSide? screen.size.1, hostSide? screen.size.2 with
  | some width, some height =>
    if width < 0 ∨ height < 0 then .error .negativeSize
    else if maxSide < width ∨ maxSide < height then .error .tooLarge
    else .ok screen
  | _, _ => .error .unusableSize

/-- Whether the host keeps no size for the window and gives it one of its own. -/
def isUnsized (screen : Screen) : Bool := hostSide? screen.size.1 == some 0

/-- A part of a colour as the host keeps it: the low thirty-two bits of a number of sixty-four
without a sign, which must be a byte. -/
def hostPart? (part : Int) : Option Int :=
  if 0 ≤ part ∧ part < 0x10000000000000000 ∧ part % 0x100000000 ≤ 0xFF then
    some (part % 0x100000000)
  else none

/-- A colour as it appears in the window. -/
def hostColor (color : Color) : Except ScreenError Color :=
  match hostPart? color.red, hostPart? color.green, hostPart? color.blue with
  | some red, some green, some blue => .ok ⟨red, green, blue⟩
  | _, _, _ => .error .invalidColor

/-- The colours of the blocks, row by row. The colour of dark pixels is painted first, everywhere,
the colour of lit pixels only where there are any. -/
def paint (screen : Screen) (display : Display) : Except ScreenError (List (List Color)) := do
  let dark ← hostColor screen.offColor
  let light ← if display.rows.any (·.any id) then hostColor screen.onColor else .ok dark
  if screen.isUnsized then .error .otherSize
  else .ok (display.rows.map fun row => row.map fun lit => if lit then light else dark)

end Screen

end Chip8
