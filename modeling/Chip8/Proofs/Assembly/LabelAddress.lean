import Chip8.Proofs.Assembly.Agreement

/-! # Addresses in instruction words

The second pass cuts the address of a label down to the twelve bits of an instruction word. Programs
start at 0x200 and end at 0x1000 at most, so twelve bits hold the address of every label but one
(`label_address_kept`): the label behind the last byte of a program that fills the memory is at
0x1000, and a word that refers to it holds 0 (`jumpBehindMemory_truncated`).
-/

namespace Chip8.Assembly

open Numeric (Span)

/-! ## The address of a word -/

section Words

variable {addresses : String → Option Nat} {scope : String} {target : Reference}

theorem Slot.Admits.read {slot : Slot} {operand : Operand Int}
    (admits : slot.Admits (0 ≤ ·) operand) (word : Int) :
    ∃ value, slot.read? word = some value := by
  cases admits <;> exact ⟨_, rfl⟩

/-- Where the machine reads the operands of a word as they were filled in, it reads the bits of a
reference as the address of the word. -/
theorem Fit.address_eq {slots : List Slot} {operands : List (Operand Int)}
    (fit : Fit (0 ≤ ·) slots operands) {word : Int}
    (reads : slots.filterMap (Slot.read? word) =
      operands.map fun operand => (operand.filling addresses scope : Int))
    (member : target ∈ references operands) :
    (Word.address word).val = target.bits addresses scope := by
  induction fit with
  | nil => contradiction
  | fixed _ ih => exact ih reads member
  | field admits _ ih =>
    obtain ⟨value, read⟩ := admits.read word
    rw [List.filterMap_cons_some read, List.map_cons, List.cons.injEq] at reads
    obtain ⟨operand, inside, refers⟩ := List.mem_filterMap.mp member
    rcases List.mem_cons.mp inside with rfl | later
    · cases admits with
      | reference =>
        cases refers
        cases read
        exact Int.ofNat.inj reads.1
      | _ => contradiction
    · exact ih reads.2 (List.mem_filterMap.mpr ⟨operand, later, refers⟩)

/-- The address in the word of an instruction is that of the label that it refers to, without the
bits that are too high. -/
theorem Form.address_filled {form : Form} {operands : List (Operand Int)}
    (fit : Fit (0 ≤ ·) form.slots operands) (fits : form.overflow? operands = none)
    (member : target ∈ references operands) :
    (Word.address (form.filled (operands.map (Operand.filling addresses scope)))).val =
      target.bits addresses scope := by
  have holds : List.Forall₂ Span.Holds form.spans
      (operands.map (Operand.filling addresses scope)) :=
    fit.holds (List.findSome?_eq_none_iff.mp fits)
  apply fit.address_eq _ member
  exact (form.reads_filled holds).trans (List.map_map ..)

end Words

/-! ## Labels in a program -/

/-- A label of a listing with a full name stands behind some bytes of the parts of its program. -/
def LabelBehind (listed : List Listed) (parts : List (List UInt8)) (fullName : String)
    (offset : Nat) : Prop :=
  ∃ i scope name, listed[i]? = some (scope, .label name) ∧ fullName = qualify scope name ∧
    offset = (parts.take i).flatten.length

theorem length_take_linkedParts {listed : List Listed}
    (proper : ∀ entry ∈ listed, entry.2.Proper (0 ≤ ·)) (i : Nat) :
    ((linkedParts listed).take i).flatten.length = totalSize (listed.take i) := by
  rw [linkedParts, ← List.map_take, ← List.flatMap_def]
  exact linked_length fun entry member => proper entry (List.mem_of_mem_take member)

theorem LabelBehind.le_length {listed : List Listed} {parts : List (List UInt8)} {fullName : String}
    {offset : Nat} (label : LabelBehind listed parts fullName offset) :
    offset ≤ parts.flatten.length := by
  obtain ⟨i, _, _, _, _, rfl⟩ := label
  have cut := congrArg (fun parts => parts.flatten.length) (List.take_append_drop i parts)
  simp only [List.flatten_append, List.length_append] at cut
  omega

section Programs

variable {sources : List SourceModule} {program : List UInt8} {first : Draft}

/-- The label of a reference in an instruction stands somewhere in the program. -/
theorem Assembled.exists_label (known : Assembled sources program first) {i : Nat} {scope : String}
    {form : Form} {operands : List (Operand Int)} {target : Reference}
    (here : (listing sources)[i]? = some (scope, .instruction form operands))
    (member : target ∈ references operands) :
    ∃ offset, first.find? (target.fullName scope) = some (programStart + offset) ∧
      LabelBehind (listing sources) (linkedParts (listing sources)) (target.fullName scope)
        offset := by
  have proper := listing_proper sources
  obtain ⟨address, found⟩ :=
    Option.isSome_iff_exists.mp (known.isSome_find? here target member)
  have label := found
  rw [known.addresses, addressOf?_eq_some proper known.fine] at label
  obtain ⟨j, labelScope, name, there, named, rfl⟩ := label
  refine ⟨_, found, j, labelScope, name, there, named, ?_⟩
  exact (length_take_linkedParts proper j).symm

/-- Twelve bits hold every address of a program but the one behind the last cell. -/
theorem mod_addressSpace_eq_iff {offset length : Nat} (inside : offset ≤ length)
    (fits : length ≤ maxProgramSize) :
    (programStart + offset) % addressSpace = programStart + offset ↔
      ¬(length = maxProgramSize ∧ offset = length) := by
  simp only [maxProgramSize, addressSpace, programStart] at fits ⊢
  omega

/-- The word of an instruction that refers to a label holds the address of the label in its low
twelve bits, unless the program fills the memory and the label stands behind its last byte. -/
theorem label_address_kept (assembled : assemble sources = .ok program) :
    ∃ first parts, draft sources = .ok first ∧
      List.Forall₂ (Contributes first.find?) (listing sources) parts ∧ program = parts.flatten ∧
      ∀ (i : Nat) (scope : String) (form : Form) (operands : List (Operand Int))
        (target : Reference), (listing sources)[i]? = some (scope, .instruction form operands) →
        target ∈ references operands →
        ∃ word offset, parts[i]? = some (bigEndian word) ∧ word < 2 ^ 16 ∧
          first.find? (target.fullName scope) = some (programStart + offset) ∧
          LabelBehind (listing sources) parts (target.fullName scope) offset ∧
          (Word.address word).val = (programStart + offset) % addressSpace ∧
          ((Word.address word).val = programStart + offset ↔
            ¬(program.length = maxProgramSize ∧ offset = program.length)) := by
  obtain ⟨first, known⟩ := exists_assembled assembled
  have whole : program = (linkedParts (listing sources)).flatten := by
    rw [flatten_linkedParts, known.bytes]
  refine ⟨first, linkedParts (listing sources), known.drafted, ?_, whole, ?_⟩
  · rw [known.addresses, linkedParts, List.forall₂_map_right_iff, List.forall₂_same]
    intro entry member
    exact .of_linked (known.known entry member)
  · intro i scope form operands target here member
    have fit := fit_of_getElem? here
    have fits := known.overflow?_eq_none here
    have holds : List.Forall₂ Span.Holds form.spans
        (operands.map (Operand.filling first.find? scope)) :=
      fit.holds (List.findSome?_eq_none_iff.mp fits)
    obtain ⟨offset, found, label⟩ := known.exists_label here member
    have field : (Word.address (form.filled
        (operands.map (Operand.filling first.find? scope)))).val =
          (programStart + offset) % addressSpace := by
      rw [Form.address_filled fit fits member, Reference.bits, found, Option.getD_some]
    refine ⟨_, offset, known.getElem?_linkedParts here, form.filled_lt holds, found, label, field,
      ?_⟩
    rw [field]
    exact mod_addressSpace_eq_iff (whole ▸ label.le_length) known.fits

end Programs

/-- A program that jumps to its end, which is inside the memory. -/
def jumpToEnd : List SourceModule := [⟨"main", "jp &end DB 1, 2 end:"⟩]

theorem jumpToEnd_kept :
    assemble jumpToEnd = .ok [0x12, 0x04, 1, 2] ∧
      ∃ first word address, draft jumpToEnd = .ok first ∧
        first.find? "main::end" = some address ∧ bigEndian word = [0x12, 0x04] ∧
        (Word.address word).val = address := by
  have readable : ∀ source ∈ jumpToEnd, ∃ statements, source.statements = .ok statements :=
    readable_of_readWithin (by decide +kernel)
  have accepted : rejection? (listing jumpToEnd) = none := by
    simp only [listing, read?_eq]
    decide +kernel
  have bytes : linkedBytes (listing jumpToEnd) = [0x12, 0x04, 1, 2] := by
    simp only [listing, read?_eq]
    decide +kernel
  have listed : (listing jumpToEnd)[0]? =
      some ("main", .instruction .jp [.reference ⟨["end"]⟩]) := by
    simp only [listing, read?_eq]
    decide +kernel
  have assembled := assemble_eq readable
  rw [accepted, bytes] at assembled
  refine ⟨assembled, ?_⟩
  obtain ⟨first, parts, drafted, _, whole, kept⟩ := label_address_kept assembled
  obtain ⟨word, offset, part, _, found, _, _, same⟩ :=
    kept 0 "main" .jp [.reference ⟨["end"]⟩] ⟨["end"]⟩ listed (List.mem_cons_self ..)
  refine ⟨first, word, programStart + offset, drafted, found, ?_, ?_⟩
  · have cut : parts = bigEndian word :: parts.drop 1 := cut_of_getElem? part
    rw [cut, List.flatten_cons] at whole
    have front := congrArg (List.take 2) whole
    exact front.symm
  · apply same.mpr
    rintro ⟨full, _⟩
    contradiction

/-! ## The end of the memory -/

def dataRow : SourceModule :=
  ⟨"data", "DB 0, 0, 0, 0, 0, 0, 0, 0, 0, 0, 0, 0, 0, 0, 0, 0, 0, 0"⟩

/-- A program that fills the memory and jumps behind its last byte. -/
def jumpBehindMemory : List SourceModule :=
  [⟨"main", "jp &end"⟩] ++ List.replicate 199 dataRow ++ [⟨"main", "end:"⟩]

theorem listing_replicate (count : Nat) {source : SourceModule} {statements : List (Statement Int)}
    (read : source.statements = .ok statements) :
    listing (List.replicate count source) =
      (List.replicate count (statements.map fun s => (source.name, s))).flatten := by
  induction count with
  | zero => rfl
  | succ count ih =>
    rw [List.replicate_succ, listing_cons read, ih, List.replicate_succ, List.flatten_cons]

theorem statements_dataRow :
    dataRow.statements = .ok [.bytes (List.replicate 18 0)] := by
  rw [SourceModule.statements, read?_eq]
  decide +kernel

theorem listing_jumpBehindMemory :
    listing jumpBehindMemory = [("main", .instruction .jp [.reference ⟨["end"]⟩])] ++
      (List.replicate 199 [("data", .bytes (List.replicate 18 0))]).flatten ++
        [("main", .label "end")] := by
  have jump : listing [⟨"main", "jp &end"⟩] =
      [("main", .instruction .jp [.reference ⟨["end"]⟩])] := by
    simp only [listing, read?_eq]
    decide +kernel
  have label : listing [⟨"main", "end:"⟩] = [("main", .label "end")] := by
    simp only [listing, read?_eq]
    decide +kernel
  rw [jumpBehindMemory, listing_append, listing_append, jump, label,
    listing_replicate 199 statements_dataRow]
  rfl

theorem readable_jumpBehindMemory :
    ∀ source ∈ jumpBehindMemory, ∃ statements, source.statements = .ok statements := by
  have kinds : ∀ source ∈ [⟨"main", "jp &end"⟩, dataRow, ⟨"main", "end:"⟩],
      ∃ statements, source.statements = .ok statements :=
    readable_of_readWithin (by decide +kernel)
  intro source member
  apply kinds
  rcases List.mem_append.mp member with front | last
  · rcases List.mem_append.mp front with jump | data
    · rw [List.mem_singleton.mp jump]
      exact List.mem_cons_self ..
    · rw [List.eq_of_mem_replicate data]
      exact List.mem_cons_of_mem _ (List.mem_cons_self ..)
  · rw [List.mem_singleton.mp last]
    exact List.mem_cons_of_mem _ (List.mem_cons_of_mem _ (List.mem_cons_self ..))

/-- The label behind the last byte of the memory is at 0x1000, but the word that refers to it holds
the address 0. Written as a number the address is rejected. -/
theorem jumpBehindMemory_truncated :
    ∃ program first, assemble jumpBehindMemory = .ok program ∧
      draft jumpBehindMemory = .ok first ∧
      (listing jumpBehindMemory)[0]? = some ("main", .instruction .jp [.reference ⟨["end"]⟩]) ∧
      first.find? "main::end" = some 0x1000 ∧ program.take 2 = bigEndian 0x1000 ∧
      (Word.address 0x1000).val = 0 ∧
      assemble [⟨"main", "jp 0x1000"⟩] =
        .error (.rejected (.operandOutOfRange 0x1000 0x1000 0xFFF)) := by
  have accepted : rejection? (listing jumpBehindMemory) = none := by
    rw [listing_jumpBehindMemory]
    decide +kernel
  have assembled := assemble_eq readable_jumpBehindMemory
  rw [accepted] at assembled
  obtain ⟨first, known⟩ := exists_assembled assembled
  refine ⟨_, first, assembled, known.drafted, ?_, ?_, ?_, by decide, ?_⟩
  · rw [listing_jumpBehindMemory]
    rfl
  · rw [known.addresses, listing_jumpBehindMemory]
    decide +kernel
  · rw [listing_jumpBehindMemory]
    decide +kernel
  · have readable : ∀ source ∈ [SourceModule.mk "main" "jp 0x1000"],
        ∃ statements, source.statements = .ok statements :=
      readable_of_readWithin (by decide +kernel)
    have rejected : rejection? (listing [⟨"main", "jp 0x1000"⟩]) =
        some (.operandOutOfRange 0x1000 0x1000 0xFFF) := by
      simp only [listing, read?_eq]
      decide +kernel
    rw [assemble_eq readable, rejected]
    rfl

end Chip8.Assembly
