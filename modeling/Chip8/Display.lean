import Chip8.Fault
import Chip8.Hardware

/-! # Display

A monochrome picture that sprites are drawn onto by inverting pixels. The pixels form one row of
cells, line after line. A sprite is a list of bytes, one for each of its lines, the leftmost pixel
in the highest bit; every set bit inverts the pixel that it lands on.

`landings` says where the bits of a sprite land before any pixel changes, and `draw` inverts those
cells in order, so the picture after drawing is a matter of how often a cell occurs in a list.
-/

namespace Chip8

/-- What happens to the part of a sprite beyond the right or the lower edge. -/
inductive EdgeMode where
  /-- It is left out. -/
  | clip
  /-- It continues at the opposite edge. -/
  | wrap
deriving DecidableEq, Repr

/-- The edge mode that a choice of wrapping means. -/
def EdgeMode.ofWrap (wrap : Bool) : EdgeMode := if wrap then .wrap else .clip

/-- A picture and how sprites meet its edges. The sides are as they were asked for, also when they
are not positive. -/
structure Display where
  edge : EdgeMode
  width : Int
  height : Int
  pixels : Array Bool
deriving DecidableEq, Repr

namespace Display

/-- A dark picture of given sides, if they give a number of pixels. -/
def ofSize (edge : EdgeMode) (width height : Int) : Except Fault Display := do
  let count ← cellCount (width * height)
  if count < 0 then .error .negativeCount
  else .ok ⟨edge, width, height, Array.replicate count.toNat false⟩

def dark (edge : EdgeMode) : Display where
  edge := edge
  width := screenWidth
  height := screenHeight
  pixels := Array.replicate (screenWidth * screenHeight) false

def cleared (display : Display) : Display :=
  { display with pixels := Array.replicate display.pixels.size false }

/-- Whether the pixel at a position is lit; positions outside the picture are dark. -/
def pixel (display : Display) (x y : Int) : Bool :=
  if 0 ≤ x ∧ x < display.width ∧ 0 ≤ y ∧ y < display.height then
    display.pixels.getD (y * display.width + x).toNat false
  else false

/-- The columns of the set bits of a sprite line, leftmost first. -/
def litColumns (bits : UInt8) : List Nat :=
  (List.range 8).filter fun column => bits.toNat.testBit (7 - column)

/-- A coordinate after the edge of a side of the given length was met: `none` if it is left out. -/
def meetEdge (edge : EdgeMode) (side coordinate : Int) : Except Fault (Option Int) :=
  match edge with
  | .clip => .ok (if side ≤ coordinate then none else some coordinate)
  | .wrap => if side = 0 then .error .divisionByZero else .ok (some (coordinate.fmod side))

/-- The cell that a position in the row of cells selects: counted from the first one, or, when
negative, from behind the last one. -/
def cellOf (size : Nat) (position : Int) : Except Fault Nat :=
  if 0 ≤ position ∧ position < size then .ok position.toNat
  else if -size ≤ position ∧ position < 0 then .ok (position + size).toNat
  else .error .indexOutOfRange

/-- Where the set bits of one sprite line land, leftmost first, those left out omitted. -/
def lineLandings (display : Display) (x y : Int) (bits : UInt8) : List (Except Fault Nat) :=
  match meetEdge display.edge display.height y with
  | .error fault => [.error fault]
  | .ok none => []
  | .ok (some line) =>
    (litColumns bits).filterMap fun (column : Nat) =>
      match meetEdge display.edge display.width (x + column) with
      | .error fault => some (.error fault)
      | .ok none => none
      | .ok (some place) => some (cellOf display.pixels.size (line * display.width + place))

/-- Where the set bits of a sprite land, line by line. -/
def landings (display : Display) (x y : Int) (sprite : List UInt8) : List (Except Fault Nat) :=
  (sprite.zipIdx.map fun (bits, (row : Nat)) => display.lineLandings x (y + row) bits).flatten

/-- A picture during drawing, whether a lit pixel has gone dark, and why drawing stopped early. -/
structure Drawing where
  display : Display
  collision : Bool
  fault : Option Fault
deriving DecidableEq, Repr

/-- Inverts the pixel of a cell; a fault stops the drawing where it stands. -/
def Drawing.invert (drawing : Drawing) (landing : Except Fault Nat) : Drawing :=
  if drawing.fault.isSome then drawing
  else
    match landing with
    | .error fault => { drawing with fault := some fault }
    | .ok cell =>
      let display := drawing.display
      let lit := display.pixels.getD cell false
      { display := { display with pixels := display.pixels.setIfInBounds cell (!lit) }
        collision := drawing.collision || lit
        fault := none }

/-- Draws a sprite with its upper left corner at a position. -/
def draw (display : Display) (x y : Int) (sprite : List UInt8) : Drawing :=
  (display.landings x y sprite).foldl Drawing.invert ⟨display, false, none⟩

/-- The lines of the picture, top line first. -/
def rows (display : Display) : List (List Bool) :=
  (List.range display.height.toNat).map fun (y : Nat) =>
    (List.range display.width.toNat).map fun (x : Nat) => display.pixel x y

/-- The lines of the picture as text, a `#` for a lit pixel and a dot for a dark one. -/
def lines (display : Display) : List String :=
  display.rows.map fun row => String.ofList (row.map fun lit => if lit then '#' else '.')

def text (display : Display) : String := "\n".intercalate display.lines

def litCount (display : Display) : Nat := display.rows.flatten.count true

end Display

end Chip8
