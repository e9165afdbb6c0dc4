import Chip8.Proofs.Assembly.Filling
import Chip8.Proofs.Assembly.Layout
import Chip8.Proofs.Machine.WellFormed

/-! # Assembled programs in the machine

The assembler and the machine agree on the instruction set: wherever a statement of a program comes
to stand, the machine that has loaded the program fetches its word there, reads the operands from it
that were written, and recognises its form (`assembled_reads_as_written`).
-/

namespace Chip8

/-! ## Fetching what was loaded -/

theorem Assembly.bigEndian_toNat {word : Nat} (small : word < 2 ^ 16) :
    (UInt8.ofNat (word / 0x100)).toNat * 0x100 + (UInt8.ofNat (word % 0x100)).toNat = word := by
  simp only [UInt8.toNat_ofNat', Nat.reducePow] at small ⊢
  omega

/-- A word of a loaded program is found at the address that the bytes in front of it end at. -/
theorem Memory.Full.wordAtCounter_load {memory : Memory} (full : memory.Full) (machine : Machine)
    {offset word : Nat} (small : word < 2 ^ 16) {front back : List UInt8}
    (fits : offset + (front ++ Assembly.bigEndian word ++ back).length ≤ addressSpace) :
    { machine with
      memory := memory.load offset (front ++ Assembly.bigEndian word ++ back)
      counter := (offset + front.length : Nat) }.wordAtCounter = word := by
  have high : (front ++ Assembly.bigEndian word ++ back)[front.length]? =
      some (UInt8.ofNat (word / 0x100)) := by
    simp [Assembly.bigEndian]
  have low : (front ++ Assembly.bigEndian word ++ back)[front.length + 1]? =
      some (UInt8.ofNat (word % 0x100)) := by
    simp [Assembly.bigEndian]
  have highByte := full.covers.byteAt_load fits high
  have lowByte := full.covers.byteAt_load fits low
  push_cast at lowByte
  rw [← Int.add_assoc] at lowByte
  rw [Machine.wordAtCounter]
  dsimp only
  rw [Nat.cast_add, highByte, lowByte, Assembly.bigEndian_toNat small]

namespace Assembly

open Numeric (Span)

variable {sources : List SourceModule} {program : List UInt8}

/-- What is known of sources that were assembled, and of their draft. -/
structure Assembled (sources : List SourceModule) (program : List UInt8) (first : Draft) :
    Prop where
  readable : ∀ source ∈ sources, ∃ statements, read? source.text = some statements
  drafted : draft sources = .ok first
  addresses : first.find? = addressOf? (listing sources)
  fine : firstFault [] (listing sources) = none
  known : ∀ entry ∈ listing sources, entry.2.dangling? (listing sources) entry.1 = none
  bytes : program = linkedBytes (listing sources)
  fits : program.length ≤ maxProgramSize

theorem exists_assembled (assembled : assemble sources = .ok program) :
    ∃ first, Assembled sources program first := by
  obtain ⟨first, drafted, _⟩ := Outcome.bind_eq_ok.mp assembled
  have readable := readable_of_foldlM_addModule drafted
  obtain ⟨last, draftEq⟩ := draft_eq readable
  rw [assemble_eq readable] at assembled
  obtain ⟨accepted, rfl⟩ := Outcome.checked_eq_ok.mp assembled
  obtain ⟨fine, known, fits⟩ := rejection?_eq_none.mp (Option.map_eq_none_iff.mp accepted)
  rw [fine] at draftEq
  have same : first = Draft.ofListing last (listing sources) :=
    Except.ok.inj (drafted.symm.trans draftEq)
  refine ⟨first, fun source member => ?_, drafted, ?_, fine, known, rfl, ?_⟩
  · obtain ⟨statements, read⟩ := readable source member
    exact ⟨statements, SourceModule.statements_eq_ok.mp read⟩
  · funext name
    rw [same, Draft.find?_ofListing]
  · rw [linkedBytes, linked_length (listing_proper sources)]
    exact fits

/-- The bytes that the listed statements get, one part for each of them. -/
def linkedParts (listed : List Listed) : List (List UInt8) :=
  listed.map fun entry => entry.2.linked listed entry.1

theorem flatten_linkedParts (listed : List Listed) :
    (linkedParts listed).flatten = linkedBytes listed := by
  rw [linkedBytes, List.flatMap_def, linkedParts]

section Instructions

variable {first : Draft} {i : Nat} {scope : String} {form : Form} {operands : List (Operand Int)}

theorem fit_of_getElem? (here : (listing sources)[i]? = some (scope, .instruction form operands)) :
    Fit (0 ≤ ·) form.slots operands := by
  cases listing_proper sources _ (List.mem_of_getElem? here) with
  | instruction fit => exact fit

theorem Assembled.overflow?_eq_none (known : Assembled sources program first)
    (here : (listing sources)[i]? = some (scope, .instruction form operands)) :
    form.overflow? operands = none :=
  firstFault_eq_none.mp known.fine _ _ _ (cut_of_getElem? here)

/-- Every reference of an assembled instruction has an address. -/
theorem Assembled.isSome_find? (known : Assembled sources program first)
    (here : (listing sources)[i]? = some (scope, .instruction form operands)) :
    ∀ target ∈ references operands, (first.find? (target.fullName scope)).isSome := by
  intro target member
  rw [(fit_of_getElem? here).references_eq] at member
  have left : (references operands).head? = some target := Option.mem_toList.mp member
  have found := known.known _ (List.mem_of_getElem? here)
  rw [known.addresses]
  cases address : addressOf? (listing sources) (target.fullName scope) with
  | none =>
    simp only [Statement.dangling?, Statement.target?, left, Option.bind_some, address,
      reduceCtorEq] at found
  | some address => rfl

/-- The part of an assembled instruction is its word, with all operands filled in. -/
theorem Assembled.getElem?_linkedParts (known : Assembled sources program first)
    (here : (listing sources)[i]? = some (scope, .instruction form operands)) :
    (linkedParts (listing sources))[i]? =
      some (bigEndian (form.filled (operands.map (Operand.filling first.find? scope)))) := by
  rw [linkedParts, List.getElem?_map, here, Option.map_some, known.addresses]
  exact congrArg some <| linked_instruction (fit_of_getElem? here)
    (known.overflow?_eq_none here) (listing sources) scope

/-- The word of an assembled instruction stands in the program behind what the statements before it
contribute. -/
theorem Assembled.exists_cut (known : Assembled sources program first)
    (here : (listing sources)[i]? = some (scope, .instruction form operands)) :
    ∃ back, program = ((linkedParts (listing sources)).take i).flatten ++
      bigEndian (form.filled (operands.map (Operand.filling first.find? scope))) ++ back := by
  have part := known.getElem?_linkedParts here
  refine ⟨((linkedParts (listing sources)).drop (i + 1)).flatten, ?_⟩
  rw [known.bytes, ← flatten_linkedParts]
  conv_lhs => rw [cut_of_getElem? part]
  rw [List.flatten_append, List.flatten_cons, List.append_assoc]

end Instructions

/-- A machine reads the instruction at its counter as it is written in a module. It fetches a word,
reads from it what the operands stand for when the labels have given addresses, and recognises the
form unless that is shadowed. -/
def ReadsAsWritten (machine : Machine) (addresses : String → Option Nat) (scope : String)
    (form : Form) (operands : List (Operand Int)) : Prop :=
  ∃ word values, machine.fetch = .ok (word, machine.pastWord) ∧
    operands.mapM (Operand.meaning? addresses scope) = some values ∧ form.reads word = values ∧
    (¬form.Shadowed values → Instruction.decode? word = some (form.instruction word))

/-- A machine accepts every program that was assembled, and at the address of each instruction
statement it reads that instruction as it was written. The address is where the contributions of the
statements before it end. -/
theorem assembled_reads_as_written (assembled : assemble sources = .ok program)
    (machine : Machine) :
    (∀ source ∈ sources, ∃ statements, read? source.text = some statements) ∧
    ∃ first parts loaded, draft sources = .ok first ∧
      List.Forall₂ (Contributes first.find?) (listing sources) parts ∧
      program = parts.flatten ∧ machine.loadProgram? program = some loaded ∧
      ∀ i scope form operands,
        (listing sources)[i]? = some (scope, .instruction form operands) →
        ReadsAsWritten
          { loaded with counter := (programStart + (parts.take i).flatten.length : Nat) }
          first.find? scope form operands := by
  obtain ⟨first, known⟩ := exists_assembled assembled
  refine ⟨known.readable, first, linkedParts (listing sources), _, known.drafted, ?_, ?_,
    if_pos known.fits, ?_⟩
  · rw [known.addresses, linkedParts, List.forall₂_map_right_iff, List.forall₂_same]
    intro entry member
    exact .of_linked (known.known entry member)
  · rw [known.bytes, flatten_linkedParts]
  · intro i scope form operands here
    have fit := fit_of_getElem? here
    have fits := List.findSome?_eq_none_iff.mp (known.overflow?_eq_none here)
    have holds : List.Forall₂ Span.Holds form.spans
        (operands.map (Operand.filling first.find? scope)) := fit.holds fits
    have reads : form.reads (form.filled (operands.map (Operand.filling first.find? scope))) =
        operands.map fun operand => (operand.filling first.find? scope : Int) :=
      (form.reads_filled holds).trans (List.map_map ..)
    refine ⟨form.filled (operands.map (Operand.filling first.find? scope)), _, ?_,
      fit.mapM_meaning? (known.isSome_find? here), reads, fun clear => ?_⟩
    · obtain ⟨back, cut⟩ := known.exists_cut here
      have room : programStart + program.length ≤ addressSpace := by
        have := known.fits
        simp only [maxProgramSize, addressSpace, programStart] at this ⊢
        omega
      have full : (machine.memory.reset.load programStart program).Full :=
        machine.memory.full_reset.load programStart program room
      rw [cut] at room
      have word :=
        machine.memory.full_reset.wordAtCounter_load machine.reset (form.filled_lt holds) room
      rw [← cut] at word
      rw [← word]
      exact Machine.fetch_of_full full
    · rw [← reads] at clear
      exact (form.marks_filled holds).decode? clear

/-- A module with an instruction at an odd address that refers to itself. -/
def oddStart : List SourceModule := [⟨"main", "DB 1 start: jp v0, &start // at 201"⟩]

theorem oddStart_reads_as_written :
    ∃ first loaded, draft oddStart = .ok first ∧
      (Machine.start 500 .clip (.ofSeed 0)).loadProgram? [1, 0xB2, 0x01] = some loaded ∧
      ReadsAsWritten { loaded with counter := 0x201 } first.find? "main" .jpOffset
        [.reference ⟨["start"]⟩] := by
  have readable : ∀ source ∈ oddStart, ∃ statements, source.statements = .ok statements :=
    readable_of_readWithin (by decide +kernel)
  have accepted : rejection? (listing oddStart) = none := by
    simp only [listing, read?_eq]
    decide +kernel
  have bytes : linkedBytes (listing oddStart) = [1, 0xB2, 0x01] := by
    simp only [listing, read?_eq]
    decide +kernel
  have listed : listing oddStart = [("main", .bytes [1]), ("main", .label "start"),
      ("main", .instruction .jpOffset [.reference ⟨["start"]⟩])] := by
    simp only [listing, read?_eq]
    decide +kernel
  have assembled := assemble_eq readable
  rw [accepted, bytes] at assembled
  obtain ⟨_, first, parts, loaded, drafted, contributes, _, accepts, reads⟩ :=
    assembled_reads_as_written assembled (.start 500 .clip (.ofSeed 0))
  refine ⟨first, loaded, drafted, accepts, ?_⟩
  have here := reads 2 "main" .jpOffset [.reference ⟨["start"]⟩] (by rw [listed]; rfl)
  have offset : (parts.take 2).flatten.length = 1 := by
    rw [listed] at contributes
    -- Neither the row of bytes nor the label has a link.
    obtain _ | ⟨⟨_⟩ | ⟨⟨⟩, _⟩, _ | ⟨⟨_⟩ | ⟨⟨⟩, _⟩, _⟩⟩ := contributes
    rfl
  rw [offset] at here
  exact here

end Assembly

end Chip8
