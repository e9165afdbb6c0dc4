import Mathlib.Data.Nat.Bitwise
import Chip8.Machine
import Chip8.Proofs.Registers

/-! # Arithmetic with the flag

Five instructions put the low byte of a sum, a difference or a shift into a register and tell by the
flag what the byte lacks: a carry, a borrow or the bit that was shifted out. Nothing is lost that
way: flag and byte together give back the exact value (`FlagOperation.exact_of_bytes`). The flag is
set first, so an instruction that names the flag register computes from the flag that it has just
set, and one whose result goes there replaces it (`flag_arithmetic_is_exact`).
-/

namespace Chip8

/-- What an instruction can compute beside setting the flag. -/
inductive FlagOperation where
  | add
  | subtract
  | subtractFrom
  | shiftRight
  | shiftLeft
deriving DecidableEq, Repr

namespace FlagOperation

/-- The instruction that computes into `X`, from `X` and, except for shifts, from `Y`. -/
def instruction (x y : Register) : FlagOperation → Instruction
  | .add => .add x y
  | .subtract => .subtract x y
  | .subtractFrom => .subtractFrom x y
  | .shiftRight => .shiftRight x
  | .shiftLeft => .shiftLeft x

def digit : FlagOperation → Nat
  | .add => 0x4
  | .subtract => 0x5
  | .shiftRight => 0x6
  | .subtractFrom => 0x7
  | .shiftLeft => 0xE

def readsY : FlagOperation → Bool
  | .add | .subtract | .subtractFrom => true
  | .shiftRight | .shiftLeft => false

/-- The value of an operation on whole numbers, as large or small as it comes out. -/
def value (a b : Int) : FlagOperation → Int
  | .add => a + b
  | .subtract => a - b
  | .subtractFrom => b - a
  | .shiftRight => a / 2
  | .shiftLeft => 2 * a

/-- A flag and a byte that tell together what the operation makes of its operands. -/
def Exact (a b flag byte : Int) : FlagOperation → Prop
  | .add => 256 * flag + byte = a + b
  | .subtract => byte = a - b + 256 * (1 - flag)
  | .subtractFrom => byte = b - a + 256 * (1 - flag)
  | .shiftRight => 2 * byte + flag = a
  | .shiftLeft => 256 * flag + byte = 2 * a

def test (a b : UInt8) : FlagOperation → Bool
  | .add => 0xFF < a.toNat + b.toNat
  | .subtract => b ≤ a
  | .subtractFrom => a ≤ b
  | .shiftRight => a &&& 1 == 1
  | .shiftLeft => a &&& 0x80 == 0x80

def flag (a b : UInt8) (operation : FlagOperation) : UInt8 := if operation.test a b then 1 else 0

def result (a b : UInt8) : FlagOperation → UInt8
  | .add => a + b
  | .subtract => a - b
  | .subtractFrom => b - a
  | .shiftRight => a >>> 1
  | .shiftLeft => a <<< 1

theorem decode?_word {word : Int} {operation : FlagOperation} (group : Word.group word = 0x8)
    (digit : (Word.digit word).val = operation.digit) :
    Instruction.decode? word = some (operation.instruction (Word.x word) (Word.y word)) := by
  simp only [Instruction.decode?, group, digit]
  cases operation <;> rfl

/-! ## Bytes and whole numbers -/

theorem toNat_shiftRight_one (a : UInt8) : (a >>> 1).toNat = a.toNat / 2 := by
  rw [UInt8.toNat_shiftRight]
  exact Nat.shiftRight_eq_div_pow a.toNat 1

theorem toNat_shiftLeft_one (a : UInt8) : (a <<< 1).toNat = 2 * a.toNat % 256 := by
  rw [UInt8.toNat_shiftLeft]
  change a.toNat <<< 1 % 256 = _
  rw [Nat.shiftLeft_eq, Nat.mul_comm]

theorem lowBit_iff (a : UInt8) : (a &&& 1 == 1) = decide (a.toNat % 2 = 1) := by
  rw [Bool.eq_iff_iff, beq_iff_eq, decide_eq_true_iff, ← UInt8.toNat_inj, UInt8.toNat_and]
  change a.toNat &&& 1 = 1 ↔ _
  rw [Nat.and_one_is_mod]

theorem highBit_iff (a : UInt8) : (a &&& 0x80 == 0x80) = decide (0x80 ≤ a.toNat) := by
  have small := a.toNat_lt
  rw [Bool.eq_iff_iff, beq_iff_eq, decide_eq_true_iff, ← UInt8.toNat_inj, UInt8.toNat_and]
  change a.toNat &&& 2 ^ 7 = 2 ^ 7 ↔ _
  rw [Nat.and_two_pow, Nat.testBit_eq_decide_div_mod_eq]
  by_cases high : 0x80 ≤ a.toNat
  · have bit : a.toNat / 128 % 2 = 1 := by omega
    simp [bit, high]
  · have bit : a.toNat / 128 % 2 = 0 := by omega
    simp [bit, high]

/-- The byte of an operation is the low byte of its value. -/
theorem toNat_result (a b : UInt8) (operation : FlagOperation) :
    ((operation.result a b).toNat : Int) = operation.value a.toNat b.toNat % 256 := by
  have first := a.toNat_lt
  have second := b.toNat_lt
  cases operation with
  | add =>
    simp only [result, value, UInt8.toNat_add]
    omega
  | subtract | subtractFrom =>
    simp only [result, value, UInt8.toNat_sub]
    omega
  | shiftRight =>
    simp only [result, value, toNat_shiftRight_one]
    omega
  | shiftLeft =>
    simp only [result, value, toNat_shiftLeft_one]
    omega

theorem toNat_flag (a b : UInt8) (operation : FlagOperation) :
    (operation.flag a b).toNat = if operation.test a b then 1 else 0 := by
  unfold flag
  split <;> rfl

theorem flag_le_one (a b : UInt8) (operation : FlagOperation) :
    (operation.flag a b).toNat ≤ 1 := by
  rw [toNat_flag]
  split <;> decide

/-- Neither a carry nor a borrow nor a bit that is shifted out is lost. -/
theorem exact_of_bytes (a b : UInt8) (operation : FlagOperation) :
    operation.Exact a.toNat b.toNat (operation.flag a b).toNat (operation.result a b).toNat := by
  have first := a.toNat_lt
  have second := b.toNat_lt
  rw [toNat_flag]
  cases operation with
  | add =>
    simp only [Exact, test, result, UInt8.toNat_add, decide_eq_true_iff]
    split <;> omega
  | subtract | subtractFrom =>
    simp only [Exact, test, result, UInt8.toNat_sub, UInt8.le_iff_toNat_le, decide_eq_true_iff]
    split <;> omega
  | shiftRight =>
    simp only [Exact, test, result, toNat_shiftRight_one, lowBit_iff, decide_eq_true_iff]
    split <;> omega
  | shiftLeft =>
    simp only [Exact, test, result, toNat_shiftLeft_one, highBit_iff, decide_eq_true_iff]
    split <;> omega

/-! ## Registers -/

/-- The registers after an operation: the flag first, then the result of what they hold by then. -/
def registers (before : Registers) (x y : Register) (operation : FlagOperation) : Registers :=
  let flagged := before.set .flag (operation.flag (before.get x) (before.get y))
  flagged.set x (operation.result (flagged.get x) (flagged.get y))

theorem perform_word (machine : Machine) {word : Int} {operation : FlagOperation}
    (group : Word.group word = 0x8) (digit : (Word.digit word).val = operation.digit) :
    machine.perform word = .ok { machine with
      registers := operation.registers machine.registers (Word.x word) (Word.y word) } := by
  rw [Machine.perform, decode?_word group digit]
  cases operation <;> rfl

section Contents

variable (before : Registers) {x y other : Register} {operation : FlagOperation}

theorem get_registers_of_ne (noResult : other ≠ x) (noFlag : other ≠ .flag) :
    (operation.registers before x y).get other = before.get other := by
  unfold registers
  rw [Registers.get_set_of_ne _ _ noResult, Registers.get_set_of_ne _ _ noFlag]

theorem get_registers_flag (first : x ≠ .flag) :
    (operation.registers before x y).get .flag =
      operation.flag (before.get x) (before.get y) := by
  unfold registers
  rw [Registers.get_set_of_ne _ _ first.symm, Registers.get_set_self]

/-- A flag that is no operand does not matter to the result. -/
theorem get_registers_result (first : x ≠ .flag) (second : operation.readsY = true → y ≠ .flag) :
    (operation.registers before x y).get x = operation.result (before.get x) (before.get y) := by
  unfold registers
  rw [Registers.get_set_self, Registers.get_set_of_ne _ _ first]
  cases operation with
  | add | subtract | subtractFrom => rw [Registers.get_set_of_ne _ _ (second rfl)]
  | shiftRight | shiftLeft => rfl

end Contents

end FlagOperation

namespace Machine

/-- The five instructions lose nothing. As long as the flag register is no operand, the flag and the
result give back the exact value. In any case the flag is set to what it would be then, the result
is the low byte of what the operation makes of the registers after that, and if it goes into the
flag register, it replaces the flag. Nothing else changes. -/
theorem flag_arithmetic_is_exact (machine : Machine) {word : Int} {operation : FlagOperation}
    (group : Word.group word = 0x8) (digit : (Word.digit word).val = operation.digit) :
    let x := Word.x word
    let y := Word.y word
    let a := (machine.registers.get x).toNat
    let b := (machine.registers.get y).toNat
    ∃ registers, machine.perform word = .ok { machine with registers := registers } ∧
      (∀ other, other ≠ x → other ≠ .flag → registers.get other = machine.registers.get other) ∧
      (x ≠ .flag → (operation.readsY = true → y ≠ .flag) →
        (registers.get .flag).toNat ≤ 1 ∧ (registers.get x).toNat ≤ 0xFF ∧
          operation.Exact a b (registers.get .flag).toNat (registers.get x).toNat) ∧
      ∃ flag byte : UInt8, flag.toNat ≤ 1 ∧ operation.Exact a b flag.toNat byte.toNat ∧
        (x ≠ .flag → registers.get .flag = flag) ∧
        ((registers.get x).toNat : Int) =
          operation.value ((machine.registers.set .flag flag).get x).toNat
            ((machine.registers.set .flag flag).get y).toNat % 256 := by
  intro x y a b
  let before := machine.registers
  have exact := operation.exact_of_bytes (before.get x) (before.get y)
  have small := operation.flag_le_one (before.get x) (before.get y)
  refine ⟨operation.registers before x y, FlagOperation.perform_word machine group digit,
    ?_, ?_, ?_⟩
  · intro other noResult noFlag
    exact FlagOperation.get_registers_of_ne before noResult noFlag
  · intro first second
    rw [FlagOperation.get_registers_flag before first,
      FlagOperation.get_registers_result before first second]
    exact ⟨small, Nat.le_of_lt_succ (UInt8.toNat_lt _), exact⟩
  · refine ⟨_, _, small, exact, FlagOperation.get_registers_flag before, ?_⟩
    unfold FlagOperation.registers
    rw [Registers.get_set_self]
    exact operation.toNat_result ..

def counted : Machine :=
  { start 500 .clip (.ofSeed 0) with
    registers := ((Registers.zero.set (.ofNumber 1) 200).set (.ofNumber 2) 100).set .flag 70 }

/-- A sum that does not fit leaves the rest of it to the flag; a difference that goes into the flag
register is taken from the flag. -/
theorem counted_sum_and_difference :
    (∃ registers, counted.perform 0x8124 = .ok { counted with registers := registers } ∧
      256 * ((registers.get .flag).toNat : Int) + (registers.get 1).toNat = 300) ∧
    (∃ registers, counted.perform 0x8F25 = .ok { counted with registers := registers } ∧
      (registers.get .flag).toNat = 256 - 100) := by
  constructor
  · have group : Word.group 0x8124 = 0x8 := by decide
    have digit : (Word.digit 0x8124).val = FlagOperation.add.digit := by decide
    obtain ⟨registers, performed, _, sum, _⟩ := flag_arithmetic_is_exact counted group digit
    exact ⟨registers, performed, (sum (by decide) (by decide)).2.2⟩
  · have group : Word.group 0x8F25 = 0x8 := by decide
    have digit : (Word.digit 0x8F25).val = FlagOperation.subtract.digit := by decide
    obtain ⟨registers, performed, _, _, flag, byte, small, exact, _, replaced⟩ :=
      flag_arithmetic_is_exact counted group digit
    have minuend : counted.registers.get .flag = 70 := by decide
    have subtrahend : counted.registers.get 2 = 100 := by decide
    have first : Word.x 0x8F25 = .flag := by decide
    have second : Word.y 0x8F25 = 2 := by decide
    rw [first, second] at exact replaced
    rw [minuend, subtrahend] at exact
    rw [Registers.get_set_self, Registers.get_set_of_ne _ _ (by decide), subtrahend] at replaced
    refine ⟨registers, performed, ?_⟩
    -- A flag of one would make the byte of the exact difference negative.
    have bound := byte.toNat_lt
    simp only [FlagOperation.Exact, FlagOperation.value, UInt8.reduceToNat] at exact replaced
    omega

end Machine

end Chip8
