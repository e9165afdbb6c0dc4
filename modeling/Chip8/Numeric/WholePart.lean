import Chip8.Fault

/-! # Whole numbers near a binary64 number

A finite binary64 number is a whole multiple of a power of two. Dropping what lies behind the point
is then a matter of shifting that multiple, and so is rounding to the nearest whole number.
-/

namespace Chip8.Numeric

def signBit (number : Float) : Bool := number.toBits.toNat.testBit 63

def exponentBits (number : Float) : Nat := (number.toBits.toNat >>> 52) % 0x800

def fractionBits (number : Float) : Nat := number.toBits.toNat % 0x10000000000000

/-- A finite number without its sign is `significand * 2 ^ (scale - 1075)`. -/
def significand (number : Float) : Nat :=
  if exponentBits number = 0 then fractionBits number else fractionBits number + 0x10000000000000

/-- The power of two that the significand is scaled by, counted from -1075. -/
def scale (number : Float) : Nat := max 1 (exponentBits number)

def wholeMagnitude (number : Float) : Nat :=
  if scale number < 1075 then significand number >>> (1075 - scale number)
  else significand number <<< (scale number - 1075)

/-- The whole number nearest to a number without its sign; a tie goes to the even one. -/
def nearestMagnitude (number : Float) : Nat :=
  let below := wholeMagnitude number
  if scale number < 1075 then
    let rest := significand number - (below <<< (1075 - scale number))
    let half := 1 <<< (1074 - scale number)
    if half < rest ∨ (rest = half ∧ below % 2 = 1) then below + 1 else below
  else below

/-- A magnitude with the sign of a number, unless the number is infinite or undefined. -/
def withSign (number : Float) (magnitude : Nat) : Except Fault Int :=
  if exponentBits number = 2047 then
    .error (if fractionBits number = 0 then .infiniteNumber else .undefinedNumber)
  else .ok (if signBit number then -magnitude else magnitude)

/-- The number without what lies behind the point. -/
def wholePart (number : Float) : Except Fault Int := withSign number (wholeMagnitude number)

/-- The whole number nearest to a number; a tie goes to the even one. -/
def nearestWhole (number : Float) : Except Fault Int := withSign number (nearestMagnitude number)

end Chip8.Numeric
