import Chip8.Proofs.Assembly.Proper
import Mathlib.Data.Nat.Bitwise

/-! # The words of statements

What a statement stands for in the program, told without the draft: the word of an instruction from
its opcode and operands, the reference that is left open, and the fault that keeps it out. The first
pass encodes exactly that (`encode_eq`), and a statement without a fault has a word of sixteen bits.
-/

namespace Chip8.Assembly

/-- A word as two bytes, the high one first. -/
def bigEndian (word : Nat) : List UInt8 := [UInt8.ofNat (word / 0x100), UInt8.ofNat (word % 0x100)]

theorem wordBytes?_natCast {word : Nat} (small : word < 2 ^ 16) :
    wordBytes? word = .ok (bigEndian word) := by
  rw [wordBytes?, if_pos (by omega)]
  rfl

/-! ## Operands -/

def Operand.target? {ν : Type} : Operand ν → Option Reference
  | .reference target => some target
  | .register _ | .number _ => none

def fieldBits (part : Field × Operand Int) : Nat :=
  match part.2 with
  | .register number => number.val <<< part.1.shift.toNat
  | .number value => value.toNat <<< part.1.shift.toNat
  | .reference _ => 0

/-- What is wrong with a number that is larger than its field admits. -/
def overflow? (opcode : Nat) (part : Field × Operand Int) : Option Rejection :=
  match part.2 with
  | .number value =>
    if part.1.limit < value then some (.operandOutOfRange value opcode part.1.limit) else none
  | .register _ | .reference _ => none

theorem overflow?_number (opcode : Nat) (field : Field) (value : Int) :
    overflow? opcode (field, .number value) =
      if field.limit < value then some (.operandOutOfRange value opcode field.limit) else none :=
  rfl

/-- An operand that is admitted in the field that it fills. -/
inductive Field.Admits : Field → Operand Int → Prop where
  | mk {slot : Slot} {field : Field} {operand : Operand Int} :
      slot.field? = some field → slot.Admits (0 ≤ ·) operand → Admits field operand

theorem Fit.parts {slots : List Slot} {operands : List (Operand Int)}
    (fit : Fit (0 ≤ ·) slots operands) :
    ∀ part ∈ (slots.filterMap Slot.field?).zip operands, part.1.Admits part.2 := by
  induction fit with
  | nil => simp
  | fixed _ ih => exact ih
  | field admits _ ih =>
    obtain ⟨field, same⟩ := admits.field
    rw [List.filterMap_cons_some same, List.zip_cons_cons]
    intro part member
    rcases List.mem_cons.mp member with rfl | later
    · exact .mk same admits
    · exact ih part later

theorem Slot.field?_shift_nonneg {slot : Slot} {field : Field} (same : slot.field? = some field) :
    0 ≤ field.shift := by
  cases slot <;> cases same <;> decide

private theorem put_of_fits (opcode : Int) {field : Field} {operand : Operand Int} {value : Int}
    (same : operand.value = .inl value) (shift : 0 ≤ field.shift) (nonneg : 0 ≤ value)
    (fits : value ≤ field.limit) (word : Nat) (target : Option Reference) :
    Draft.Encoding.put opcode ⟨word, target⟩ (field, operand) =
      .ok ⟨(word ||| value.toNat <<< field.shift.toNat : Nat), target⟩ := by
  simp only [Draft.Encoding.put, same]
  rw [if_neg (by omega), if_neg (by omega)]
  split
  · rename_i zero
    simp [zero]
  · rw [Numeric.joinBits_natCast]

private theorem put_number (opcode : Nat) {field : Field} (shift : 0 ≤ field.shift) {value : Int}
    (nonneg : 0 ≤ value) (word : Nat) (target : Option Reference) :
    Draft.Encoding.put opcode ⟨word, target⟩ (field, .number value) =
      Outcome.checked ((overflow? opcode (field, .number value)).map .rejected)
        ⟨(word ||| fieldBits (field, .number value) : Nat), target⟩ := by
  by_cases large : field.limit < value
  · simp only [overflow?, large, if_true, Option.map_some, Outcome.checked, Draft.Encoding.put,
      Operand.value, or_true]
  · rw [put_of_fits opcode rfl shift nonneg (Int.not_lt.mp large)]
    simp only [overflow?, large, if_false, Option.map_none, Outcome.checked, fieldBits]

/-- Putting an admitted operand into its field either overflows or joins its bits. -/
theorem put_eq (opcode : Nat) {part : Field × Operand Int} (admits : part.1.Admits part.2)
    (word : Nat) (target : Option Reference) :
    Draft.Encoding.put opcode ⟨word, target⟩ part =
      Outcome.checked ((overflow? opcode part).map .rejected)
        ⟨(word ||| fieldBits part : Nat), part.2.target?.or target⟩ := by
  obtain ⟨field, operand⟩ := part
  obtain ⟨same, admits⟩ := admits
  have shift := Slot.field?_shift_nonneg same
  cases admits with
  | x number =>
    cases same
    exact put_of_fits opcode rfl shift (Int.natCast_nonneg _)
      (show (number.val : Int) ≤ 0xF by omega) word target
  | y number =>
    cases same
    exact put_of_fits opcode rfl shift (Int.natCast_nonneg _)
      (show (number.val : Int) ≤ 0xF by omega) word target
  | digit nonneg => exact put_number opcode shift nonneg word target
  | byte nonneg => exact put_number opcode shift nonneg word target
  | address nonneg => exact put_number opcode shift nonneg word target
  | reference named =>
    simp only [Draft.Encoding.put, Operand.value, overflow?, Option.map_none, Outcome.checked,
      fieldBits, Nat.or_zero, Operand.target?, Option.some_or]

/-! ## Instructions -/

/-- The word of an instruction whose references are left open. -/
def Form.word (form : Form) (operands : List (Operand Int)) : Nat :=
  (form.fields.zip operands).foldl (fun word part => word ||| fieldBits part) form.opcode

/-- What is wrong with the first operand that does not fit its field. -/
def Form.overflow? (form : Form) (operands : List (Operand Int)) : Option Rejection :=
  (form.fields.zip operands).findSome? (Assembly.overflow? form.opcode)

def references {ν : Type} (operands : List (Operand ν)) : List Reference :=
  operands.filterMap Operand.target?

/-- There are no more references than slots for addresses. -/
theorem Fit.references_le {ν : Type} {valid : ν → Prop} {slots : List Slot}
    {operands : List (Operand ν)} (fit : Fit valid slots operands) :
    (references operands).length ≤ slots.count .address := by
  induction fit with
  | nil => exact Nat.le_refl _
  | fixed _ ih => exact ih.trans (List.count_le_count_cons ..)
  | field admits _ ih =>
    cases admits with
    | reference named =>
      rw [List.count_cons_self]
      exact Nat.succ_le_succ ih
    | _ => exact ih.trans (List.count_le_count_cons ..)

/-- Every form has a place for one reference at most. -/
theorem Fit.references_le_one {ν : Type} {valid : ν → Prop} {form : Form}
    {operands : List (Operand ν)} (fit : Fit valid form.slots operands) :
    (references operands).length ≤ 1 :=
  fit.references_le.trans (by cases form <;> decide)

/-- The references among operands that fit are those that sources can contain. -/
theorem Fit.named {ν : Type} {valid : ν → Prop} {slots : List Slot} {operands : List (Operand ν)}
    (fit : Fit valid slots operands) : ∀ target ∈ references operands, target.Named := by
  induction fit with
  | nil => simp [references]
  | fixed _ ih => exact ih
  | field admits _ ih =>
    cases admits with
    | reference named =>
      intro target member
      rcases List.mem_cons.mp member with rfl | later
      · exact named
      · exact ih target later
    | _ => exact ih

private theorem foldl_target (operands : List (Operand Int)) (start : Option Reference) :
    operands.foldl (fun target operand => operand.target?.or target) start =
      (references operands).getLast?.or start := by
  induction operands generalizing start with
  | nil => rfl
  | cons operand rest ih =>
    rw [List.foldl_cons, ih]
    cases found : operand.target? with
    | none => simp only [references, List.filterMap_cons, found, Option.none_or]
    | some target =>
      simp only [references, List.filterMap_cons, found, Option.some_or, List.getLast?_cons]
      cases (rest.filterMap Operand.target?).getLast? <;> rfl

private theorem foldl_parts (parts : List (Field × Operand Int)) (word : Nat)
    (target : Option Reference) :
    parts.foldl (fun (t : Nat × Option Reference) part =>
        (t.1 ||| fieldBits part, part.2.target?.or t.2)) (word, target) =
      (parts.foldl (fun word part => word ||| fieldBits part) word,
        (parts.map Prod.snd).foldl (fun target operand => operand.target?.or target) target) := by
  induction parts generalizing word target with
  | nil => rfl
  | cons part rest ih => exact ih _ _

/-- The word of an instruction is encoded unless an operand does not fit. -/
theorem encode_eq {form : Form} {operands : List (Operand Int)}
    (fit : Fit (0 ≤ ·) form.slots operands) :
    Draft.encode form.opcode (form.fields.zip operands) =
      Outcome.checked ((form.overflow? operands).map .rejected)
        ⟨form.word operands, (references operands).head?⟩ := by
  have parts : ∀ part ∈ form.fields.zip operands, part.1.Admits part.2 := fit.parts
  have folded := Outcome.foldlM_checked
    (fun (t : Nat × Option Reference) => (⟨t.1, t.2⟩ : Draft.Encoding))
    (fun part => (Assembly.overflow? form.opcode part).map AssemblyError.rejected)
    (fun t part => (t.1 ||| fieldBits part, part.2.target?.or t.2))
    (fun part member t => put_eq form.opcode (parts part member) t.1 t.2) (form.opcode, none)
  have operandsOfParts : (form.fields.zip operands).map Prod.snd = operands :=
    List.map_snd_zip (Nat.le_of_eq fit.length)
  have last : (references operands).getLast? = (references operands).head? := by
    have few := fit.references_le_one
    match references operands, few with
    | [], _ => rfl
    | [_], _ => rfl
  refine folded.trans ?_
  rw [foldl_parts, operandsOfParts, foldl_target, last, Option.or_none, Form.overflow?,
    List.map_findSome?]
  rfl

/-- The largest value that a field admits stays within sixteen bits. -/
theorem Slot.field?_room {slot : Slot} {field : Field} (same : slot.field? = some field) :
    field.limit.toNat <<< field.shift.toNat < 2 ^ 16 := by
  cases slot <;> cases same <;> decide

private theorem shiftLeft_lt {value limit : Int} {shift : Nat} (fits : value ≤ limit)
    (room : limit.toNat <<< shift < 2 ^ 16) : value.toNat <<< shift < 2 ^ 16 := by
  rw [Nat.shiftLeft_eq] at room ⊢
  exact Nat.lt_of_le_of_lt (Nat.mul_le_mul_right _ (Int.toNat_le_toNat fits)) room

private theorem fieldBits_number_lt {opcode : Nat} {field : Field} {value : Int}
    (room : field.limit.toNat <<< field.shift.toNat < 2 ^ 16)
    (fits : overflow? opcode (field, .number value) = none) :
    fieldBits (field, .number value) < 2 ^ 16 := by
  apply shiftLeft_lt _ room
  apply Int.not_lt.mp
  intro large
  simp only [overflow?, large, if_true, reduceCtorEq] at fits

/-- Without an overflow the bits of an operand stay within sixteen bits. -/
theorem fieldBits_lt {opcode : Nat} {part : Field × Operand Int} (admits : part.1.Admits part.2)
    (fits : overflow? opcode part = none) : fieldBits part < 2 ^ 16 := by
  obtain ⟨field, operand⟩ := part
  obtain ⟨same, admits⟩ := admits
  have room := Slot.field?_room same
  cases admits with
  | x number =>
    cases same
    exact shiftLeft_lt (show (number.val : Int) ≤ 0xF by omega) room
  | y number =>
    cases same
    exact shiftLeft_lt (show (number.val : Int) ≤ 0xF by omega) room
  | digit => exact fieldBits_number_lt room fits
  | byte => exact fieldBits_number_lt room fits
  | address => exact fieldBits_number_lt room fits
  | reference named => exact Nat.two_pow_pos 16

theorem foldl_fieldBits_lt {parts : List (Field × Operand Int)} {word : Nat} (small : word < 2 ^ 16)
    (bits : ∀ part ∈ parts, fieldBits part < 2 ^ 16) :
    parts.foldl (fun word part => word ||| fieldBits part) word < 2 ^ 16 := by
  induction parts generalizing word with
  | nil => exact small
  | cons part rest ih =>
    apply ih (Nat.or_lt_two_pow small (bits part (List.mem_cons_self ..)))
    intro other member
    exact bits other (List.mem_cons_of_mem _ member)

/-- Without an overflow the word of an instruction has sixteen bits. -/
theorem Form.word_lt {form : Form} {operands : List (Operand Int)}
    (fit : Fit (0 ≤ ·) form.slots operands) (fits : form.overflow? operands = none) :
    form.word operands < 2 ^ 16 := by
  apply foldl_fieldBits_lt
  · cases form <;> decide
  · intro part member
    exact fieldBits_lt (fit.parts part member) (List.findSome?_eq_none_iff.mp fits part member)

end Chip8.Assembly
