/-! # Bits of whole numbers

A whole number has its bits in two's complement: where `n` has a bit, `-n - 1` has none, and the
other way round. So a negative number has bits without end, and joining bits keeps it negative.
-/

namespace Chip8.Numeric

/-- The number that has the bits of a number and those of another. -/
def joinBits : Int → Nat → Int
  | .ofNat number, bits => .ofNat (number ||| bits)
  | .negSucc absent, bits => .negSucc (absent - (absent &&& bits))

/-- The number that has the bits of a number that a mask has too. -/
def keepBits (number : Nat) : Int → Nat
  | .ofNat mask => number &&& mask
  | .negSucc absent => number - (number &&& absent)

/-- Joining bits to a number that is not negative stays within the natural numbers. -/
theorem joinBits_natCast (number bits : Nat) : joinBits number bits = (number ||| bits : Nat) := rfl

/-- A mask that is not negative keeps the bits that both numbers have. -/
theorem keepBits_natCast (number mask : Nat) : keepBits number mask = number &&& mask := rfl

end Chip8.Numeric
