import Chip8.Text.Hexadecimal

/-! # Assembly errors

Why a source cannot be assembled. A rejection is the fault of the source and is worded for its
author; the other errors have no wording of their own.
-/

namespace Chip8.Assembly

/-- What is wrong with a source. -/
inductive Rejection where
  | duplicateLabel (name : String)
  | undefinedLabel (name : String)
  | operandOutOfRange (value opcode limit : Int)
  | byteOutOfRange (value : Int)
  | wordOutOfRange (value : Int)
  | unknownStatement (scope text : String)
  | programTooLarge (size : Nat)
deriving DecidableEq, Repr

/-- The text that tells the author of a source what is wrong with it. -/
def Rejection.message : Rejection → String
  | .duplicateLabel name => s!"Duplicate label {name}"
  | .undefinedLabel name => s!"Undefined label {name}"
  | .operandOutOfRange value opcode limit =>
    let opcodeText := Text.upperHex 4 opcode
    s!"Operand {Text.lowerHex value} out of range for {opcodeText} (max {Text.lowerHex limit})"
  | .byteOutOfRange value => s!"Byte {Text.lowerHex value} out of range"
  | .wordOutOfRange value => s!"Word {Text.lowerHex value} out of range"
  | .unknownStatement scope text => s!"Unknown statement in {scope}: {text}"
  | .programTooLarge size => s!"Program too large: {size} bytes"

/-- Why assembling stopped. -/
inductive AssemblyError where
  /-- The source is at fault. -/
  | rejected (cause : Rejection)
  /-- A number in the source has too many digits to be read. -/
  | unreadableNumber
  /-- A value does not fit into sixteen bits. -/
  | wordTooWide (value : Int)
  /-- A field lies below the lowest bit. -/
  | fieldBelowWord
  /-- A reference names nothing. -/
  | namelessReference
deriving DecidableEq, Repr

def AssemblyError.message : AssemblyError → String
  | .rejected cause => cause.message
  | .unreadableNumber => "A number has too many digits"
  | .wordTooWide value => s!"{value} does not fit into sixteen bits"
  | .fieldBelowWord => "negative shift count"
  | .namelessReference => "A reference names nothing"

end Chip8.Assembly
