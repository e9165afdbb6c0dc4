import Chip8.Registers

/-! # Instructions

The instruction set and how the machine reads it from a word. A word holds a group in its highest
digit and operands in the other three: the register `X`, the register `Y`, the digit `N`, the byte
`NN` and the address `NNN`. Only the low sixteen bits of a word count.
-/

namespace Chip8

/-- An address that an instruction can hold: twelve bits. -/
abbrev Address := Fin 4096

/-! ## Operand fields -/

namespace Word

/-- The group of a word: its highest digit. -/
def group (word : Int) : Nat := (word / 0x1000 % 16).toNat

def x (word : Int) : Register := .ofNumber (word / 0x100 % 16).toNat

def y (word : Int) : Register := .ofNumber (word / 0x10 % 16).toNat

def digit (word : Int) : Fin 16 := ⟨(word % 16).toNat % 16, Nat.mod_lt _ (by decide)⟩

def byte (word : Int) : UInt8 := UInt8.ofNat (word % 0x100).toNat

def address (word : Int) : Address := ⟨(word % 0x1000).toNat % 4096, Nat.mod_lt _ (by decide)⟩

end Word

/-! ## The instruction set -/

/-- What the machine can be told to do. -/
inductive Instruction where
  /-- Runs a routine of the host, which this machine does not have. -/
  | hostRoutine (target : Address)
  /-- Makes every pixel dark. -/
  | clear
  /-- Goes back to the caller. -/
  | ret
  /-- Goes to an address. -/
  | jump (target : Address)
  /-- Goes to an address and remembers where to come back to. -/
  | call (target : Address)
  /-- Skips the next instruction if a register holds the byte. -/
  | skipEqual (x : Register) (byte : UInt8)
  /-- Skips the next instruction unless a register holds the byte. -/
  | skipDifferent (x : Register) (byte : UInt8)
  /-- Skips the next instruction if two registers hold the same byte. -/
  | skipSame (x y : Register)
  /-- Skips the next instruction unless two registers hold the same byte. -/
  | skipUnlike (x y : Register)
  /-- Puts a byte into a register. -/
  | assign (x : Register) (byte : UInt8)
  /-- Adds a byte to a register, without a carry. -/
  | increase (x : Register) (byte : UInt8)
  /-- Copies register `Y` into register `X`. -/
  | copy (x y : Register)
  /-- Joins the bits of `Y` to those of `X`. -/
  | bitOr (x y : Register)
  /-- Keeps the bits of `X` that `Y` has too. -/
  | bitAnd (x y : Register)
  /-- Inverts the bits of `X` that `Y` has. -/
  | bitXor (x y : Register)
  /-- Adds `Y` to `X`; the flag is the carry. -/
  | add (x y : Register)
  /-- Takes `Y` from `X`; the flag says that nothing was borrowed. -/
  | subtract (x y : Register)
  /-- Puts `Y` less `X` into `X`; the flag says that nothing was borrowed. -/
  | subtractFrom (x y : Register)
  /-- Halves `X`; the flag is the lost bit. -/
  | shiftRight (x : Register)
  /-- Doubles `X`; the flag is the lost bit. -/
  | shiftLeft (x : Register)
  /-- Sets the index. -/
  | setIndex (target : Address)
  /-- Goes to an address increased by register 0. -/
  | jumpOffset (target : Address)
  /-- Puts a random byte, restricted to the bits of the operand, into a register. -/
  | random (x : Register) (mask : UInt8)
  /-- Draws a sprite of some lines, found at the index, at the position in two registers. -/
  | draw (x y : Register) (lines : Fin 16)
  /-- Skips the next instruction if the key in a register is down. -/
  | skipPressed (x : Register)
  /-- Skips the next instruction unless the key in a register is down. -/
  | skipReleased (x : Register)
  /-- Reads the delay timer. -/
  | readDelay (x : Register)
  /-- Waits for a key and puts its number into a register. -/
  | awaitKey (x : Register)
  /-- Sets the delay timer. -/
  | setDelay (x : Register)
  /-- Sets the sound timer. -/
  | setSound (x : Register)
  /-- Adds a register to the index. -/
  | increaseIndex (x : Register)
  /-- Sets the index to the glyph of the low digit of a register. -/
  | indexGlyph (x : Register)
  /-- Stores the three decimal digits of a register at the index. -/
  | storeDecimal (x : Register)
  /-- Stores the registers from 0 to `X` at the index. -/
  | storeRegisters (x : Register)
  /-- Loads the registers from 0 to `X` from the index. -/
  | loadRegisters (x : Register)
deriving DecidableEq, Repr

namespace Instruction

/-- The instructions of group 8, told apart by the last digit. -/
def ofArithmetic? (x y : Register) : Nat → Option Instruction
  | 0x0 => some (.copy x y)
  | 0x1 => some (.bitOr x y)
  | 0x2 => some (.bitAnd x y)
  | 0x3 => some (.bitXor x y)
  | 0x4 => some (.add x y)
  | 0x5 => some (.subtract x y)
  | 0x6 => some (.shiftRight x)
  | 0x7 => some (.subtractFrom x y)
  | 0xE => some (.shiftLeft x)
  | _ => none

/-- The instructions of group F, told apart by the low byte. -/
def ofMiscellany? (x : Register) : Nat → Option Instruction
  | 0x07 => some (.readDelay x)
  | 0x0A => some (.awaitKey x)
  | 0x15 => some (.setDelay x)
  | 0x18 => some (.setSound x)
  | 0x1E => some (.increaseIndex x)
  | 0x29 => some (.indexGlyph x)
  | 0x33 => some (.storeDecimal x)
  | 0x55 => some (.storeRegisters x)
  | 0x65 => some (.loadRegisters x)
  | _ => none

/-- The instruction that a word stands for, if any. In group 0 the low byte alone picks the two
instructions that are not a host routine. -/
def decode? (word : Int) : Option Instruction :=
  let x := Word.x word
  let y := Word.y word
  let byte := Word.byte word
  let target := Word.address word
  match Word.group word with
  | 0x0 => match byte.toNat with
    | 0xE0 => some .clear
    | 0xEE => some .ret
    | _ => some (.hostRoutine target)
  | 0x1 => some (.jump target)
  | 0x2 => some (.call target)
  | 0x3 => some (.skipEqual x byte)
  | 0x4 => some (.skipDifferent x byte)
  | 0x5 => some (.skipSame x y)
  | 0x6 => some (.assign x byte)
  | 0x7 => some (.increase x byte)
  | 0x8 => ofArithmetic? x y (Word.digit word)
  | 0x9 => some (.skipUnlike x y)
  | 0xA => some (.setIndex target)
  | 0xB => some (.jumpOffset target)
  | 0xC => some (.random x byte)
  | 0xD => some (.draw x y (Word.digit word))
  | 0xE => match byte.toNat with
    | 0x9E => some (.skipPressed x)
    | 0xA1 => some (.skipReleased x)
    | _ => none
  | 0xF => ofMiscellany? x byte.toNat
  | _ => none

end Instruction

end Chip8
