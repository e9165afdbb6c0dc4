import Chip8.Registers

/-! # Statements

What an assembly source consists of: labels, instructions in one of 37 forms, rows of bytes, single
words, and whatever is none of these. A form lists its operands in the order in which they are
written; each is a register, a number or a reference that goes into a field of the instruction word,
or a fixed text that only tells forms apart.

Statements are generic in what a number is: text as it stands in the source, or its value.
-/

namespace Chip8.Assembly

/-- A reference to a label: its name, or the name of a module and its name. -/
structure Reference where
  parts : List String
deriving DecidableEq, Repr

/-- What stands in the place of an operand. -/
inductive Operand (ν : Type) where
  | register (number : Register)
  | number (value : ν)
  | reference (target : Reference)
deriving DecidableEq, Repr

def Operand.value : Operand Int → Int ⊕ Reference
  | .register r => .inl r.val
  | .number value => .inl value
  | .reference target => .inr target

/-- The place of an operand in a form. -/
inductive Slot where
  /-- A register in the second digit of the word. -/
  | x
  /-- A register in the third digit. -/
  | y
  /-- A number in the last digit. -/
  | digit
  /-- A number in the low byte. -/
  | byte
  /-- A number or a reference in the low twelve bits. -/
  | address
  /-- A text that is written as it is. -/
  | fixed (text : String)
deriving DecidableEq, Repr

/-- Where an operand goes in an instruction word, and the largest value that fits there. -/
structure Field where
  shift : Int
  limit : Int
deriving DecidableEq, Repr

def Slot.field? : Slot → Option Field
  | .x => some ⟨8, 0xF⟩
  | .y => some ⟨4, 0xF⟩
  | .digit => some ⟨0, 0xF⟩
  | .byte => some ⟨0, 0xFF⟩
  | .address => some ⟨0, 0xFFF⟩
  | .fixed _ => none

/-- The forms of instructions that a source can contain. -/
inductive Form where
  | cls | ret | sys | jp | jpOffset | call
  | seByte | seRegister | sneByte | sneRegister
  | ldByte | ldRegister | ldIndex | ldFromDelay | ldKey | ldDelay | ldSound | ldGlyph | ldDecimal
  | ldStore | ldLoad
  | addByte | addRegister | addIndex
  | or | and | xor | sub | subn
  | shr | shrPair | shl | shlPair
  | rnd | drw | skp | sknp
deriving DecidableEq, Repr

namespace Form

/-- All forms, in the order in which equally long readings are preferred. -/
def all : List Form :=
  [.cls, .ret, .sys, .jp, .jpOffset, .call,
   .seByte, .seRegister, .sneByte, .sneRegister,
   .ldByte, .ldRegister, .ldIndex, .ldFromDelay, .ldKey, .ldDelay, .ldSound, .ldGlyph, .ldDecimal,
   .ldStore, .ldLoad,
   .addByte, .addRegister, .addIndex,
   .or, .and, .xor, .sub, .subn,
   .shr, .shrPair, .shl, .shlPair,
   .rnd, .drw, .skp, .sknp]

def mnemonic : Form → String
  | .cls => "cls"
  | .ret => "ret"
  | .sys => "sys"
  | .jp | .jpOffset => "jp"
  | .call => "call"
  | .seByte | .seRegister => "se"
  | .sneByte | .sneRegister => "sne"
  | .ldByte | .ldRegister | .ldIndex | .ldFromDelay | .ldKey | .ldDelay | .ldSound | .ldGlyph
  | .ldDecimal | .ldStore | .ldLoad => "ld"
  | .addByte | .addRegister | .addIndex => "add"
  | .or => "or"
  | .and => "and"
  | .xor => "xor"
  | .sub => "sub"
  | .subn => "subn"
  | .shr | .shrPair => "shr"
  | .shl | .shlPair => "shl"
  | .rnd => "rnd"
  | .drw => "drw"
  | .skp => "skp"
  | .sknp => "sknp"

/-- The instruction word of a form with every field zero. -/
def opcode : Form → Nat
  | .cls => 0x00E0
  | .ret => 0x00EE
  | .sys => 0x0000
  | .jp => 0x1000
  | .jpOffset => 0xB000
  | .call => 0x2000
  | .seByte => 0x3000
  | .seRegister => 0x5000
  | .sneByte => 0x4000
  | .sneRegister => 0x9000
  | .ldByte => 0x6000
  | .ldRegister => 0x8000
  | .ldIndex => 0xA000
  | .ldFromDelay => 0xF007
  | .ldKey => 0xF00A
  | .ldDelay => 0xF015
  | .ldSound => 0xF018
  | .ldGlyph => 0xF029
  | .ldDecimal => 0xF033
  | .ldStore => 0xF055
  | .ldLoad => 0xF065
  | .addByte => 0x7000
  | .addRegister => 0x8004
  | .addIndex => 0xF01E
  | .or => 0x8001
  | .and => 0x8002
  | .xor => 0x8003
  | .sub => 0x8005
  | .subn => 0x8007
  | .shr | .shrPair => 0x8006
  | .shl | .shlPair => 0x800E
  | .rnd => 0xC000
  | .drw => 0xD000
  | .skp => 0xE09E
  | .sknp => 0xE0A1

/-- The operands of a form in the order in which they are written. -/
def slots : Form → List Slot
  | .cls | .ret => []
  | .sys | .jp | .call => [.address]
  | .jpOffset => [.fixed "v0", .address]
  | .seByte | .sneByte | .ldByte | .addByte | .rnd => [.x, .byte]
  | .seRegister | .sneRegister | .ldRegister | .addRegister | .or | .and | .xor | .sub | .subn
  | .shrPair | .shlPair => [.x, .y]
  | .ldIndex => [.fixed "i", .address]
  | .ldFromDelay => [.x, .fixed "dt"]
  | .ldKey => [.x, .fixed "k"]
  | .ldDelay => [.fixed "dt", .x]
  | .ldSound => [.fixed "st", .x]
  | .ldGlyph => [.fixed "f", .x]
  | .ldDecimal => [.fixed "b", .x]
  | .ldStore => [.fixed "[i]", .x]
  | .ldLoad => [.x, .fixed "[i]"]
  | .addIndex => [.fixed "i", .x]
  | .shr | .shl | .skp | .sknp => [.x]
  | .drw => [.x, .y, .digit]

/-- The fields that the operands of a form fill, in the order in which they are written. -/
def fields (form : Form) : List Field := form.slots.filterMap Slot.field?

end Form

/-- One statement of a source. -/
inductive Statement (ν : Type) where
  /-- Gives a name to the place where it stands. -/
  | label (name : String)
  /-- An instruction, with the operands that fill its fields. -/
  | instruction (form : Form) (operands : List (Operand ν))
  /-- A row of bytes. -/
  | bytes (values : List ν)
  /-- A sixteen-bit word. -/
  | word (value : Operand ν)
  /-- The rest of a line that no statement starts. -/
  | unknown (text : String)
deriving DecidableEq, Repr

variable {ν μ : Type}

def Operand.mapNumber? (read : ν → Option μ) : Operand ν → Option (Operand μ)
  | .register r => some (.register r)
  | .number value => (read value).map .number
  | .reference target => some (.reference target)

def Statement.mapNumbers? (read : ν → Option μ) : Statement ν → Option (Statement μ)
  | .label name => some (.label name)
  | .instruction form operands => (operands.mapM (Operand.mapNumber? read)).map (.instruction form)
  | .bytes values => (values.mapM read).map .bytes
  | .word value => (value.mapNumber? read).map .word
  | .unknown text => some (.unknown text)

end Chip8.Assembly
