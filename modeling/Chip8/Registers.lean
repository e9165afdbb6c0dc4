/-! # Registers

The sixteen byte registers. The last one doubles as the flag that arithmetic and drawing set.
-/

namespace Chip8

abbrev Register := Fin 16

/-- The register whose number is the last hexadecimal digit of a number. -/
def Register.ofNumber (number : Nat) : Register := ⟨number % 16, Nat.mod_lt _ (by decide)⟩

/-- The register that jumps with an offset take it from. -/
def Register.first : Register := ⟨0, by decide⟩

/-- The register that doubles as the flag. -/
def Register.flag : Register := ⟨15, by decide⟩

/-- The register that a position names: counted from the first one, or, when negative, from behind
the last one. -/
def Register.ofPosition? (position : Int) : Option Register :=
  if 0 ≤ position ∧ position < 16 then some (.ofNumber position.toNat)
  else if -16 ≤ position ∧ position < 0 then some (.ofNumber (position + 16).toNat)
  else none

/-- The contents of the sixteen registers. -/
structure Registers where
  cells : Vector UInt8 16
deriving DecidableEq, Repr

namespace Registers

def zero : Registers := ⟨Vector.replicate 16 0⟩

def get (registers : Registers) (register : Register) : UInt8 := registers.cells[register]

def set (registers : Registers) (register : Register) (byte : UInt8) : Registers :=
  ⟨registers.cells.set register byte⟩

/-- Puts one into the flag register if a condition holds and zero otherwise. -/
def setFlag (registers : Registers) (condition : Bool) : Registers :=
  registers.set .flag (if condition then 1 else 0)

def toList (registers : Registers) : List UInt8 := registers.cells.toList

end Registers

end Chip8
