import Chip8.Proofs.Assembly.Decoding
import Chip8.Proofs.Assembly.Linking

/-! # Words with all their operands

The word of an instruction comes about in two passes: the first joins registers and numbers to the
opcode, the second the address of a label. The outcome is the same as if every operand had been put
into its span at once (`linked_instruction`), so the machine reads from it what the operands stand
for (`Form.reads_filled`) and recognises the form (`Form.marks_filled`).
-/

namespace Chip8.Assembly

open Numeric (Span join)

/-! ## What operands stand for -/

/-- The number that an operand of a module stands for in a program whose labels have given
addresses: for a reference, the low twelve bits of the address of its label. -/
def Operand.meaning? (addresses : String → Option Nat) (scope : String) : Operand Int → Option Int
  | .register r => some r.val
  | .number value => some value
  | .reference target =>
    (addresses (target.fullName scope)).map fun address => (address % addressSpace : Nat)

/-- The bits that the second pass joins for a reference, which are none as long as its label has no
address. -/
def Reference.bits (addresses : String → Option Nat) (scope : String) (target : Reference) : Nat :=
  (addresses (target.fullName scope)).getD 0 % addressSpace

/-- The number that an operand of a module puts into its field, in the first pass or the second. -/
def Operand.filling (addresses : String → Option Nat) (scope : String) : Operand Int → Nat
  | .register r => r.val
  | .number value => value.toNat
  | .reference target => target.bits addresses scope

/-- The references of an instruction are the first one, if there is one. -/
theorem Fit.references_eq {ν : Type} {valid : ν → Prop} {form : Form} {operands : List (Operand ν)}
    (fit : Fit valid form.slots operands) :
    references operands = (references operands).head?.toList := by
  have few := fit.references_le_one
  match references operands, few with
  | [], _ => rfl
  | [_], _ => rfl

section Operands

variable {addresses : String → Option Nat} {scope : String} {slot : Slot} {operand : Operand Int}
  {slots : List Slot} {operands : List (Operand Int)}

theorem Slot.Admits.meaning? (admits : slot.Admits (0 ≤ ·) operand)
    (known : ∀ target ∈ operand.target?, (addresses (target.fullName scope)).isSome) :
    operand.meaning? addresses scope = some (operand.filling addresses scope : Int) := by
  cases admits with
  | x | y => rfl
  | digit nonneg | byte nonneg | address nonneg =>
    exact congrArg some (Int.toNat_of_nonneg nonneg).symm
  | @reference target named =>
    obtain ⟨address, same⟩ := Option.isSome_iff_exists.mp (known target rfl)
    simp only [Operand.meaning?, Operand.filling, Reference.bits, same, Option.map_some,
      Option.getD_some]

/-- Operands whose references are known stand for the numbers that they put into their fields. -/
theorem Fit.mapM_meaning? (fit : Fit (0 ≤ ·) slots operands)
    (known : ∀ target ∈ references operands, (addresses (target.fullName scope)).isSome) :
    operands.mapM (Operand.meaning? addresses scope) =
      some (operands.map fun operand => (operand.filling addresses scope : Int)) := by
  apply Outcome.mapM_eq_some.mpr
  induction fit with
  | nil => exact .nil
  | fixed _ ih => exact ih known
  | @field slot operand slots operands admits _ ih =>
    refine .cons (admits.meaning? fun target here => known target ?_) (ih fun target later =>
      known target ?_)
    · exact List.mem_filterMap.mpr ⟨operand, List.mem_cons_self .., here⟩
    · obtain ⟨other, member, same⟩ := List.mem_filterMap.mp later
      exact List.mem_filterMap.mpr ⟨other, List.mem_cons_of_mem _ member, same⟩

/-! ## The bits of both passes -/

def partBits (parts : List (Field × Operand Int)) : Nat :=
  parts.foldr (fun part joined => fieldBits part ||| joined) 0

theorem foldl_fieldBits (parts : List (Field × Operand Int)) (word : Nat) :
    parts.foldl (fun word part => word ||| fieldBits part) word = word ||| partBits parts := by
  induction parts generalizing word with
  | nil => exact (Nat.or_zero word).symm
  | cons part rest ih => exact (ih _).trans (Nat.or_assoc ..)

/-- The bits that the second pass joins for all references among some operands. -/
def linkBits (addresses : String → Option Nat) (scope : String) (operands : List (Operand Int)) :
    Nat :=
  (references operands).foldr (fun target joined => target.bits addresses scope ||| joined) 0

theorem linkBits_cons (addresses : String → Option Nat) (scope : String) (operand : Operand Int)
    (rest : List (Operand Int)) :
    linkBits addresses scope (operand :: rest) =
      linkBits addresses scope [operand] ||| linkBits addresses scope rest := by
  cases operand with
  | register number | number value => exact (Nat.zero_or _).symm
  | reference target =>
    have here : linkBits addresses scope [.reference target] = target.bits addresses scope :=
      Nat.or_zero _
    rw [here]
    rfl

private theorem fits_number {opcode : Nat} {field : Field} {value : Int}
    (fits : overflow? opcode (field, .number value) = none) : value ≤ field.limit := by
  apply Int.not_lt.mp
  intro large
  simp only [overflow?, large, if_true, reduceCtorEq] at fits

/-- An admitted operand that does not overflow fills its span, in the first pass or the second. -/
theorem Slot.Admits.fills (addresses : String → Option Nat) (scope : String)
    (admits : slot.Admits (0 ≤ ·) operand) {field : Field} (same : slot.field? = some field)
    {opcode : Nat} (fits : overflow? opcode (field, operand) = none) :
    ∃ span, slot.span? = some span ∧ span.Holds (operand.filling addresses scope) ∧
      fieldBits (field, operand) ||| linkBits addresses scope [operand] =
        operand.filling addresses scope <<< span.low := by
  cases admits with
  | x number | y number =>
    cases same
    exact ⟨_, rfl, number.isLt, Nat.or_zero _⟩
  | digit nonneg | byte nonneg | address nonneg =>
    cases same
    have small := fits_number fits
    refine ⟨_, rfl, ?_, Nat.or_zero _⟩
    dsimp only [Span.Holds, Operand.filling, Nat.reducePow] at small ⊢
    omega
  | @reference target named =>
    cases same
    have folded : target.bits addresses scope < addressSpace := Nat.mod_lt _ (by decide)
    refine ⟨_, rfl, folded, ?_⟩
    exact (Nat.zero_or _).trans (Nat.or_zero _)

theorem Fit.holds (fit : Fit (0 ≤ ·) slots operands) {opcode : Nat}
    (fits : ∀ part ∈ (slots.filterMap Slot.field?).zip operands, overflow? opcode part = none) :
    List.Forall₂ Span.Holds (slots.filterMap Slot.span?)
      (operands.map (Operand.filling addresses scope)) := by
  induction fit with
  | nil => exact .nil
  | fixed _ ih => exact ih fits
  | @field slot operand slots operands admits _ ih =>
    obtain ⟨field, same⟩ := admits.field
    rw [List.filterMap_cons_some same, List.zip_cons_cons] at fits
    obtain ⟨here, later⟩ := List.forall_mem_cons.mp fits
    obtain ⟨span, spanned, holds, _⟩ := admits.fills addresses scope same here
    rw [List.filterMap_cons_some spanned]
    exact .cons holds (ih later)

/-- What both passes join are the operands in their spans. -/
theorem Fit.partBits_or (fit : Fit (0 ≤ ·) slots operands) {opcode : Nat}
    (fits : ∀ part ∈ (slots.filterMap Slot.field?).zip operands, overflow? opcode part = none) :
    partBits ((slots.filterMap Slot.field?).zip operands) ||| linkBits addresses scope operands =
      join (slots.filterMap Slot.span?) (operands.map (Operand.filling addresses scope)) := by
  induction fit with
  | nil => exact Nat.or_zero 0
  | fixed _ ih => exact ih fits
  | @field slot operand slots operands admits _ ih =>
    obtain ⟨field, same⟩ := admits.field
    rw [List.filterMap_cons_some same, List.zip_cons_cons] at fits ⊢
    obtain ⟨here, later⟩ := List.forall_mem_cons.mp fits
    obtain ⟨span, spanned, _, filled⟩ := admits.fills addresses scope same here
    rw [List.filterMap_cons_some spanned, List.map_cons, Numeric.join_cons, ← ih later, ← filled,
      linkBits_cons]
    -- Left are the bits of both passes, sorted by pass on one side and by operand on the other.
    show (fieldBits (field, operand) ||| partBits _) ||| _ = _
    ac_rfl

end Operands

/-! ## Filled words -/

namespace Form

/-- The word of a form with numbers in the spans of its operands. -/
def filled (form : Form) (numbers : List Nat) : Nat := form.opcode ||| join form.spans numbers

variable {form : Form} {numbers : List Nat}

theorem marks_filled (holds : List.Forall₂ Span.Holds form.spans numbers) :
    form.Marks (form.filled numbers) := by
  intro span apart
  rw [filled, Span.read_or, Numeric.read_join_apart holds apart, Nat.or_zero]

/-- The machine reads the numbers back that a word was filled with. -/
theorem reads_filled (holds : List.Forall₂ Span.Holds form.spans numbers) :
    form.reads (form.filled numbers) = numbers.map fun (number : Nat) => (number : Int) := by
  have joined : form.spans.map (Span.read · (form.filled numbers)) = numbers := by
    rw [← Numeric.map_read_join holds form.spans_apart]
    apply List.map_congr_left
    intro span member
    rw [Numeric.map_read_join holds form.spans_apart, filled, Span.read_or,
      form.read_opcode span member, Nat.zero_or]
  rw [reads_eq, ← joined, List.map_map, joined]
  rfl

theorem filled_lt (holds : List.Forall₂ Span.Holds form.spans numbers) :
    form.filled numbers < 2 ^ 16 := by
  apply Nat.or_lt_two_pow _ (Numeric.join_lt holds form.spans_within)
  cases form <;> decide

end Form

/-- Both passes together fill the word of an instruction. -/
theorem linked_instruction {form : Form} {operands : List (Operand Int)}
    (fit : Fit (0 ≤ ·) form.slots operands) (fits : form.overflow? operands = none)
    (listed : List Listed) (scope : String) :
    (Statement.instruction form operands).linked listed scope =
      bigEndian (form.filled (operands.map (Operand.filling (addressOf? listed) scope))) := by
  have parts := List.findSome?_eq_none_iff.mp fits
  have filled : form.filled (operands.map (Operand.filling (addressOf? listed) scope)) =
      form.word operands ||| linkBits (addressOf? listed) scope operands := by
    rw [Form.filled, Form.spans, ← fit.partBits_or parts, Form.word, foldl_fieldBits, Form.fields,
      Nat.or_assoc]
  rw [filled, linkBits, fit.references_eq]
  cases left : (references operands).head? with
  | none =>
    rw [Option.toList_none, List.foldr_nil, Nat.or_zero]
    simp only [Statement.linked, Statement.target?, left]
    rfl
  | some target =>
    rw [Option.toList_some, List.foldr_cons, List.foldr_nil, Nat.or_zero, Reference.bits,
      addressSpace, ← Nat.and_two_pow_sub_one_eq_mod _ 12]
    simp only [Statement.linked, Statement.target?, left]
    rfl

end Chip8.Assembly
