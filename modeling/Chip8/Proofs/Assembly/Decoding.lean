import Chip8.Assembly.Statement
import Chip8.Instruction
import Chip8.Proofs.Numeric.Spans

/-! # Reading instruction words back

The assembler puts operands into the fields of a word, and the machine reads the same spans of bits
(`Form.reads_eq`). Outside of its operands a word has the bits of the opcode of its form, and these
are enough for the machine to recognise the form (`Form.Marks.decode?`). Only a host routine can be
mistaken, for one of the two instructions of group 0 that the low byte alone tells apart.
-/

namespace Chip8

open Numeric (Span)

/-! ## The fields of a word as spans -/

namespace Word

theorem group_eq (word : Nat) : group word = Span.read ⟨12, 4⟩ word := by
  simp only [group, Span.read, Nat.shiftRight_eq_div_pow, Nat.reducePow]
  omega

theorem x_eq (word : Nat) : (x word).val = Span.read ⟨8, 4⟩ word := by
  simp only [x, Register.ofNumber, Span.read, Nat.shiftRight_eq_div_pow, Nat.reducePow]
  omega

theorem y_eq (word : Nat) : (y word).val = Span.read ⟨4, 4⟩ word := by
  simp only [y, Register.ofNumber, Span.read, Nat.shiftRight_eq_div_pow, Nat.reducePow]
  omega

theorem digit_eq (word : Nat) : (digit word).val = Span.read ⟨0, 4⟩ word := by
  simp only [digit, Span.read, Nat.shiftRight_zero, Nat.reducePow]
  omega

theorem byte_eq (word : Nat) : (byte word).toNat = Span.read ⟨0, 8⟩ word := by
  simp only [byte, UInt8.toNat_ofNat', Span.read, Nat.shiftRight_zero, Nat.reducePow]
  omega

theorem address_eq (word : Nat) : (address word).val = Span.read ⟨0, 12⟩ word := by
  simp only [address, Span.read, Nat.shiftRight_zero, Nat.reducePow]
  omega

/-- The low byte of a word is that of its address. -/
theorem byte_eq_address (word : Nat) : (byte word).toNat = (address word).val % 0x100 := by
  rw [byte_eq, address_eq]
  simp only [Span.read, Nat.shiftRight_zero, Nat.reducePow]
  omega

end Word

namespace Assembly

/-- The bits that a slot fills. -/
def Slot.span? : Slot → Option Span
  | .x => some ⟨8, 4⟩
  | .y => some ⟨4, 4⟩
  | .digit => some ⟨0, 4⟩
  | .byte => some ⟨0, 8⟩
  | .address => some ⟨0, 12⟩
  | .fixed _ => none

/-- What the machine reads from a word for a slot. -/
def Slot.read? (word : Int) : Slot → Option Int
  | .x => some (Word.x word).val
  | .y => some (Word.y word).val
  | .digit => some (Word.digit word).val
  | .byte => some (Word.byte word).toNat
  | .address => some (Word.address word).val
  | .fixed _ => none

theorem Slot.read?_eq (word : Nat) (slot : Slot) :
    slot.read? word = slot.span?.map fun span => (span.read word : Int) := by
  cases slot with
  | x => exact congrArg (fun n : Nat => some (n : Int)) (Word.x_eq word)
  | y => exact congrArg (fun n : Nat => some (n : Int)) (Word.y_eq word)
  | digit => exact congrArg (fun n : Nat => some (n : Int)) (Word.digit_eq word)
  | byte => exact congrArg (fun n : Nat => some (n : Int)) (Word.byte_eq word)
  | address => exact congrArg (fun n : Nat => some (n : Int)) (Word.address_eq word)
  | fixed text => rfl

namespace Form

/-- The bits that the operands of a form fill, in the order in which they are written. -/
def spans (form : Form) : List Span := form.slots.filterMap Slot.span?

def reads (form : Form) (word : Int) : List Int := form.slots.filterMap (Slot.read? word)

theorem reads_eq (form : Form) (word : Nat) :
    form.reads word = form.spans.map fun span => (span.read word : Int) := by
  rw [reads, spans, List.map_filterMap]
  exact congrArg (List.filterMap · form.slots) (funext (Slot.read?_eq word))

theorem spans_apart (form : Form) : form.spans.Pairwise Span.Apart := by
  cases form <;> decide

theorem spans_within (form : Form) : ∀ span ∈ form.spans, span.low + span.width ≤ 16 := by
  cases form <;> decide

/-- An opcode leaves the fields of its operands empty. -/
theorem read_opcode (form : Form) : ∀ span ∈ form.spans, span.read form.opcode = 0 := by
  cases form <;> decide

/-! ## Recognising a form -/

/-- The instruction that a form stands for, with its operands read from a word. -/
def instruction (form : Form) (word : Int) : Instruction :=
  let x := Word.x word
  let y := Word.y word
  let byte := Word.byte word
  let target := Word.address word
  match form with
  | .cls => .clear
  | .ret => .ret
  | .sys => .hostRoutine target
  | .jp => .jump target
  | .jpOffset => .jumpOffset target
  | .call => .call target
  | .seByte => .skipEqual x byte
  | .seRegister => .skipSame x y
  | .sneByte => .skipDifferent x byte
  | .sneRegister => .skipUnlike x y
  | .ldByte => .assign x byte
  | .ldRegister => .copy x y
  | .ldIndex => .setIndex target
  | .ldFromDelay => .readDelay x
  | .ldKey => .awaitKey x
  | .ldDelay => .setDelay x
  | .ldSound => .setSound x
  | .ldGlyph => .indexGlyph x
  | .ldDecimal => .storeDecimal x
  | .ldStore => .storeRegisters x
  | .ldLoad => .loadRegisters x
  | .addByte => .increase x byte
  | .addRegister => .add x y
  | .addIndex => .increaseIndex x
  | .or => .bitOr x y
  | .and => .bitAnd x y
  | .xor => .bitXor x y
  | .sub => .subtract x y
  | .subn => .subtractFrom x y
  | .shr | .shrPair => .shiftRight x
  | .shl | .shlPair => .shiftLeft x
  | .rnd => .random x byte
  | .drw => .draw x y (Word.digit word)
  | .skp => .skipPressed x
  | .sknp => .skipReleased x

/-- A host routine whose address ends in the low byte of another instruction of group 0. -/
def Shadowed (form : Form) (values : List Int) : Prop :=
  form = .sys ∧ ∃ value ∈ values, value % 0x100 = 0xE0 ∨ value % 0x100 = 0xEE

/-- A word with the bits of the opcode of a form wherever no operand of the form goes. -/
def Marks (form : Form) (word : Nat) : Prop :=
  ∀ span : Span, (∀ other ∈ form.spans, span.Apart other) → span.read word = span.read form.opcode

variable {form : Form} {word : Nat}

theorem Marks.group (marks : form.Marks word) :
    Word.group word = Span.read ⟨12, 4⟩ form.opcode := by
  rw [Word.group_eq]
  apply marks
  cases form <;> decide

theorem Marks.digit (marks : form.Marks word)
    (apart : ∀ other ∈ form.spans, Span.Apart ⟨0, 4⟩ other) :
    (Word.digit word).val = Span.read ⟨0, 4⟩ form.opcode := by
  rw [Word.digit_eq]
  exact marks _ apart

theorem Marks.byte (marks : form.Marks word)
    (apart : ∀ other ∈ form.spans, Span.Apart ⟨0, 8⟩ other) :
    (Word.byte word).toNat = Span.read ⟨0, 8⟩ form.opcode := by
  rw [Word.byte_eq]
  exact marks _ apart

/-- The machine recognises the form of a word by the bits outside of its operands. -/
theorem Marks.decode? (marks : form.Marks word) (clear : ¬form.Shadowed (form.reads word)) :
    Instruction.decode? word = some (form.instruction word) := by
  have group := marks.group
  cases form with
  | sys =>
    have free : (Word.byte word).toNat ≠ 0xE0 ∧ (Word.byte word).toNat ≠ 0xEE := by
      rw [Word.byte_eq_address]
      constructor
      · intro same
        exact clear ⟨rfl, _, List.mem_singleton_self _, .inl (by omega)⟩
      · intro same
        exact clear ⟨rfl, _, List.mem_singleton_self _, .inr (by omega)⟩
    have first : Word.group word = 0 := group
    simp only [Instruction.decode?, first]
    split
    · rename_i same
      exact absurd same free.1
    · rename_i same
      exact absurd same free.2
    · rfl
  | cls | ret | ldFromDelay | ldKey | ldDelay | ldSound | ldGlyph | ldDecimal | ldStore | ldLoad
  | addIndex | skp | sknp =>
    have byte := marks.byte (by decide)
    dsimp only [Instruction.decode?]
    rw [group, byte]
    rfl
  | ldRegister | addRegister | or | and | xor | sub | subn | shr | shrPair | shl | shlPair =>
    have digit := marks.digit (by decide)
    dsimp only [Instruction.decode?]
    rw [group, digit]
    rfl
  | _ =>
    dsimp only [Instruction.decode?]
    rw [group]
    rfl

end Form

end Assembly

end Chip8
