import Chip8.Assembly.Error
import Chip8.Assembly.Statement
import Chip8.Hardware
import Chip8.Notice
import Chip8.Numeric.Bits

/-! # Drafts

The outcome of the first pass over the sources: what the program consists of, in order, and where
the labels are. Bytes that are known stand as they are; a word that refers to a label stands as a
link, which takes two bytes whatever the label. So the size of a draft, and with it the address of
every label, is known before any link is filled in.

An operation that fails leaves no draft behind: the one before it is still the current one.
-/

namespace Chip8.Assembly

/-- A part of a program. -/
inductive Piece where
  /-- Bytes as they will stand in the program. -/
  | bytes (data : List UInt8)
  /-- A word that joins the address of a label, cut down to the bits of a mask, to a base. -/
  | link (base mask : Int) (target : String)
deriving DecidableEq, Repr

def Piece.size : Piece → Nat
  | .bytes data => data.length
  | .link .. => 2

/-- A program with open links. -/
structure Draft where
  /-- The module that names without one of their own belong to. -/
  scope : String
  /-- The parts of the program, in order. -/
  pieces : Array Piece
  /-- The number of bytes of the parts. -/
  size : Nat
  /-- The labels by their full names, in the order of definition. -/
  labels : Array (String × Nat)
deriving DecidableEq, Repr

def qualify (scope name : String) : String := scope ++ "::" ++ name

/-- A word as two bytes, the high one first. -/
def wordBytes? (value : Int) : Except AssemblyError (List UInt8) :=
  if 0 ≤ value ∧ value < 0x10000 then
    .ok [UInt8.ofNat (value.toNat / 0x100), UInt8.ofNat (value.toNat % 0x100)]
  else .error (.wordTooWide value)

def Reference.text (target : Reference) : String := "Ref(" ++ "::".intercalate target.parts ++ ")"

namespace Draft

def empty : Draft := ⟨"<global>", #[], 0, #[]⟩

/-- The address of the byte that will follow the pieces. -/
def address (draft : Draft) : Nat := programStart + draft.size

def resolve (draft : Draft) (target : Reference) : Except AssemblyError String :=
  match target.parts with
  | [] => .error .namelessReference
  | [name] => .ok (qualify draft.scope name)
  | scope :: name :: _ => .ok (qualify scope name)

def find? (draft : Draft) (name : String) : Option Nat :=
  (draft.labels.find? fun label => label.1 == name).map (·.2)

def push (draft : Draft) (piece : Piece) : Draft :=
  { draft with pieces := draft.pieces.push piece, size := draft.size + piece.size }

def addBytes (draft : Draft) (data : List UInt8) : Draft := draft.push (.bytes data)

def addWord (draft : Draft) (value : Int) : Except AssemblyError Draft := do
  .ok (draft.addBytes (← wordBytes? value))

def addLink (draft : Draft) (base mask : Int) (target : Reference) :
    Except AssemblyError Draft := do
  .ok (draft.push (.link base mask (← draft.resolve target)))

/-- Gives a name to the current address. -/
def addLabel (draft : Draft) (name : String) : Except AssemblyError Draft :=
  let fullName := qualify draft.scope name
  if (draft.find? fullName).isSome then .error (.rejected (.duplicateLabel fullName))
  else .ok { draft with labels := draft.labels.push (fullName, draft.address) }

/-- An instruction word under construction. -/
structure Encoding where
  word : Int
  /-- The reference that was met last. -/
  target : Option Reference
deriving DecidableEq, Repr

/-- Puts an operand into its field of an instruction word. A number must fit, and zero changes
nothing; a reference is kept for later. -/
def Encoding.put (opcode : Int) (encoding : Encoding) (part : Field × Operand Int) :
    Except AssemblyError Encoding :=
  let (field, operand) := part
  match operand.value with
  | .inr target => .ok { encoding with target := some target }
  | .inl value =>
    if value < 0 ∨ field.limit < value then
      .error (.rejected (.operandOutOfRange value opcode field.limit))
    else if field.shift < 0 then .error .fieldBelowWord
    else if value = 0 then .ok encoding
    else
      let bits := value.toNat <<< field.shift.toNat
      .ok { encoding with word := Numeric.joinBits encoding.word bits }

/-- The instruction word of an opcode and the operands of its fields. -/
def encode (opcode : Int) (parts : List (Field × Operand Int)) : Except AssemblyError Encoding :=
  parts.foldlM (Encoding.put opcode) ⟨opcode, none⟩

/-- Adds an instruction. A reference takes the low twelve bits of its word. -/
def addInstruction (draft : Draft) (opcode : Int) (parts : List (Field × Operand Int)) :
    Except AssemblyError Draft := do
  let encoding ← encode opcode parts
  match encoding.target with
  | some target => draft.addLink encoding.word 0x0FFF target
  | none => draft.addWord encoding.word

def byte? (value : Int) : Except AssemblyError UInt8 :=
  if 0 ≤ value ∧ value ≤ 0xFF then .ok (UInt8.ofNat value.toNat)
  else .error (.rejected (.byteOutOfRange value))

def addByteRow (draft : Draft) (values : List Int) : Except AssemblyError Draft := do
  .ok (draft.addBytes (← values.mapM byte?))

/-- Adds a word given as an operand. A reference takes all sixteen bits. -/
def addOperand (draft : Draft) (operand : Operand Int) : Except AssemblyError Draft :=
  match operand.value with
  | .inr target => draft.addLink 0x0000 0xFFFF target
  | .inl value =>
    if 0 ≤ value ∧ value ≤ 0xFFFF then draft.addWord value
    else .error (.rejected (.wordOutOfRange value))

def addStatement (draft : Draft) : Statement Int → Except AssemblyError Draft
  | .label name => draft.addLabel name
  | .instruction form operands => draft.addInstruction form.opcode (form.fields.zip operands)
  | .bytes values => draft.addByteRow values
  | .word operand => draft.addOperand operand
  | .unknown text => .error (.rejected (.unknownStatement draft.scope text))

def addStatements (draft : Draft) (statements : List (Statement Int)) :
    Except AssemblyError Draft :=
  statements.foldlM addStatement draft

/-! ## What there is to report -/

def addressText (draft : Draft) : String := s!"0x{Text.upperHex 3 (draft.address : Int)}"

/-- The notice on a reference that is about to be added. -/
def linkNotices (draft : Draft) (target : Reference) : List Notice :=
  match draft.resolve target with
  | .ok name => [⟨.debug, s!"Ref {name} @ {draft.addressText}"⟩]
  | .error _ => []

def labelNotices (draft : Draft) (name : String) : List Notice :=
  let fullName := qualify draft.scope name
  if (draft.find? fullName).isSome then []
  else [⟨.debug, s!"Label {fullName} @ {draft.addressText}"⟩]

def instructionNotices (draft : Draft) (opcode : Int) (parts : List (Field × Operand Int)) :
    List Notice :=
  match encode opcode parts with
  | .error _ => []
  | .ok encoding =>
    ⟨.debug, s!"Issuing {Text.upperHex 4 encoding.word}"⟩
      :: (encoding.target.toList.flatMap draft.linkNotices)

def operandNotices (draft : Draft) (operand : Operand Int) : List Notice :=
  match operand.value with
  | .inr target => draft.linkNotices target
  | .inl _ => []

def statementNotices (draft : Draft) : Statement Int → List Notice
  | .label name => draft.labelNotices name
  | .instruction form operands => draft.instructionNotices form.opcode (form.fields.zip operands)
  | .word operand => draft.operandNotices operand
  | .bytes _ | .unknown _ => []

/-- The notices on statements that are about to be added, up to the first that fails. -/
def statementsNotices (draft : Draft) : List (Statement Int) → List Notice
  | [] => []
  | statement :: rest =>
    draft.statementNotices statement ++
      match draft.addStatement statement with
      | .ok next => next.statementsNotices rest
      | .error _ => []

end Draft

end Chip8.Assembly
