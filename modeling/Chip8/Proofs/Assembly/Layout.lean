import Chip8.Proofs.Assembly.Evaluation
import Chip8.Proofs.Assembly.Linking

/-! # The layout of programs

An assembled program is what its statements contribute, one after another. The first pass foresees
how much that is: the size of its draft is that of the program, and every label that it puts into
the table is where the statements behind it begin (`assemble_layout`).
-/

namespace Chip8.Assembly

/-- What a listed statement contributes to a program whose labels have given addresses: its own
bytes, or a word with the address of the label that it refers to. -/
inductive Contributes (addresses : String → Option Nat) : Listed → List UInt8 → Prop where
  | own {scope : String} {statement : Statement Int} : statement.target? = none →
      Contributes addresses (scope, statement) statement.ownBytes
  | linked {scope : String} {statement : Statement Int} {target : Reference} {address : Nat} :
      statement.target? = some target → addresses (target.fullName scope) = some address →
      Contributes addresses (scope, statement)
        (bigEndian (statement.base ||| (address &&& statement.mask)))

variable {listed : List Listed} {sources : List SourceModule} {program : List UInt8}

/-- A statement without a dangling reference contributes the bytes that linking gives it. -/
theorem Contributes.of_linked {entry : Listed} (fine : entry.2.dangling? listed entry.1 = none) :
    Contributes (addressOf? listed) entry (entry.2.linked listed entry.1) := by
  obtain ⟨scope, statement⟩ := entry
  cases left : statement.target? with
  | none =>
    have own : Contributes (addressOf? listed) (scope, statement) _ := .own left
    simp only [Statement.linked, left]
    exact own
  | some target =>
    cases known : addressOf? listed (target.fullName scope) with
    | none =>
      simp only [Statement.dangling?, left, Option.bind_some, known, reduceCtorEq] at fine
    | some address =>
      simp only [Statement.linked, left, known, Option.getD_some]
      exact .linked left known

/-- Without a fault no label is listed twice. -/
theorem label_not_mem_of_fine (fine : firstFault [] listed = none) {before after : List Listed}
    {scope name : String} (same : listed = before ++ (scope, .label name) :: after) :
    (scope, Statement.label name) ∉ before := by
  intro member
  have here := firstFault_eq_none.mp fine before (scope, .label name) after same
  rw [List.nil_append, faultAfter, if_pos member] at here
  contradiction

/-- Without a fault the addresses are those at which the listed labels stand. -/
theorem addressOf?_eq_some (proper : ∀ entry ∈ listed, entry.2.Proper (0 ≤ ·))
    (fine : firstFault [] listed = none) {fullName : String} {address : Nat} :
    addressOf? listed fullName = some address ↔
      ∃ i scope name, listed[i]? = some (scope, .label name) ∧ fullName = qualify scope name ∧
        address = programStart + totalSize (listed.take i) := by
  constructor
  · intro found
    obtain ⟨before, scope, name, after, rfl, rfl, rfl⟩ := exists_of_addressOf?_eq_some found
    refine ⟨before.length, scope, name, getElem?_of_cut rfl, rfl, ?_⟩
    rw [List.take_left]
  · rintro ⟨i, scope, name, here, rfl, rfl⟩
    have same : listed = listed.take i ++ (scope, .label name) :: listed.drop (i + 1) :=
      cut_of_getElem? here
    have properBefore : ∀ entry ∈ listed.take i, entry.2.Proper (0 ≤ ·) := fun entry member =>
      proper entry (List.mem_of_mem_take member)
    have valid : IsName name := (proper _ (List.mem_of_getElem? here)).isName
    exact addressOf?_label properBefore valid (label_not_mem_of_fine fine same) same

/-- An assembled program is what its statements contribute in order. The first pass foresees its
size and where in it every label is. -/
theorem assemble_layout (assembled : assemble sources = .ok program) :
    (∀ source ∈ sources, ∃ statements, read? source.text = some statements) ∧
    ∃ first parts, draft sources = .ok first ∧
      List.Forall₂ (Contributes first.find?) (listing sources) parts ∧
      program = parts.flatten ∧ program.length = first.size ∧
      ∀ fullName address, first.find? fullName = some address ↔
        ∃ i scope name, (listing sources)[i]? = some (scope, .label name) ∧
          fullName = qualify scope name ∧
          address = programStart + (parts.take i).flatten.length := by
  obtain ⟨first, drafted, _⟩ := Outcome.bind_eq_ok.mp assembled
  have readable := readable_of_foldlM_addModule drafted
  obtain ⟨last, draftEq⟩ := draft_eq readable
  have proper := listing_proper sources
  rw [assemble_eq readable] at assembled
  obtain ⟨accepted, rfl⟩ := Outcome.checked_eq_ok.mp assembled
  obtain ⟨fine, linked, _⟩ := rejection?_eq_none.mp (Option.map_eq_none_iff.mp accepted)
  rw [fine] at draftEq
  have same : first = Draft.ofListing last (listing sources) :=
    Except.ok.inj (drafted.symm.trans draftEq)
  have addresses : first.find? = addressOf? (listing sources) := by
    funext name
    rw [same, Draft.find?_ofListing]
  refine ⟨fun source member => ?_, first,
    (listing sources).map fun entry => entry.2.linked (listing sources) entry.1,
    drafted, ?_, ?_, ?_, ?_⟩
  · obtain ⟨statements, read⟩ := readable source member
    exact ⟨statements, SourceModule.statements_eq_ok.mp read⟩
  · rw [addresses, List.forall₂_map_right_iff, List.forall₂_same]
    intro entry member
    exact .of_linked (linked entry member)
  · rw [linkedBytes, List.flatMap_def]
  · rw [same]
    exact linked_length proper
  · intro fullName address
    have size (i : Nat) :
        (((listing sources).map fun entry => entry.2.linked (listing sources) entry.1).take i
          ).flatten.length = totalSize ((listing sources).take i) := by
      rw [← List.map_take, ← List.flatMap_def]
      exact linked_length fun entry member => proper entry (List.mem_of_mem_take member)
    simp only [size, addresses]
    exact addressOf?_eq_some proper fine

/-- Two modules that refer to each other's labels, ahead and back. -/
def twoModules : List SourceModule :=
  [⟨"main", "start: call &lib::draw\n jp &end // ahead\n DB 1, 2, 3 end: DW &start"⟩,
   ⟨"lib", "draw: drw v0, v1, 5 ret\n end: jp &main::end"⟩]

theorem twoModules_layout :
    ∃ first parts, draft twoModules = .ok first ∧
      List.Forall₂ (Contributes first.find?) (listing twoModules) parts ∧
      [0x22, 0x09, 0x12, 0x07, 1, 2, 3, 0x02, 0x00, 0xD0, 0x15, 0x00, 0xEE, 0x12, 0x07] =
        parts.flatten := by
  have readable : ∀ source ∈ twoModules, ∃ statements, source.statements = .ok statements :=
    readable_of_readWithin (by decide +kernel)
  have accepted : rejection? (listing twoModules) = none := by
    simp only [listing, read?_eq]
    decide +kernel
  have bytes : linkedBytes (listing twoModules) =
      [0x22, 0x09, 0x12, 0x07, 1, 2, 3, 0x02, 0x00, 0xD0, 0x15, 0x00, 0xEE, 0x12, 0x07] := by
    simp only [listing, read?_eq]
    decide +kernel
  have assembled := assemble_eq readable
  rw [accepted, bytes] at assembled
  obtain ⟨_, first, parts, drafted, contributes, same, _⟩ := assemble_layout assembled
  exact ⟨first, parts, drafted, contributes, same⟩

end Chip8.Assembly
