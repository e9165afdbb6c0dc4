import Chip8.Proofs.Assembly.Listing

/-! # The first pass

The first pass turns a listing into its draft: the pieces of the listed statements, the sum of their
sizes, and every label at the address that the sizes in front of it give (`Draft.ofListing`). One
statement keeps that (`Draft.addStatement_ofListing`), and so do all sources (`draft_eq`), unless a
statement is at fault; then the first such statement decides.
-/

namespace Chip8.Assembly

/-- The draft of a listing, with the names of one module in scope. -/
def Draft.ofListing (scope : String) (listed : List Listed) : Draft where
  scope := scope
  pieces := (listed.filterMap fun entry => entry.2.piece? entry.1).toArray
  size := totalSize listed
  labels := (labelsFrom programStart listed).toArray

namespace Draft

variable {scope : String} {listed : List Listed}

theorem find?_ofListing (name : String) :
    (ofListing scope listed).find? name = addressOf? listed name := by
  rw [Draft.find?, ofListing, ← Array.find?_toList]
  rfl

/-! ## Statements -/

theorem ofListing_push (piece : Piece) (statement : Statement Int)
    (adds : statement.piece? scope = some piece) (size : statement.size = piece.size)
    (other : ∀ name, statement ≠ .label name) :
    (ofListing scope listed).push piece = ofListing scope (listed ++ [(scope, statement)]) := by
  simp only [push, ofListing, List.push_toArray, List.filterMap_append, totalSize_append,
    labelsFrom_append, labelsFrom_cons _ _ other, List.filterMap_cons, adds, List.filterMap_nil]
  simp only [totalSize, labelsFrom, List.map_cons, List.map_nil, List.sum_cons, List.sum_nil,
    Nat.add_zero, size, List.append_nil]

theorem addLabel_ofListing (proper : ∀ entry ∈ listed, entry.2.Proper (0 ≤ ·)) {name : String}
    (valid : IsName name) :
    (ofListing scope listed).addLabel name =
      Outcome.checked ((faultAfter listed scope (.label name)).map .rejected)
        (ofListing scope (listed ++ [(scope, .label name)])) := by
  have known : ((ofListing scope listed).find? (qualify scope name)).isSome ↔
      (scope, Statement.label name) ∈ listed := by
    rw [find?_ofListing]
    exact addressOf?_isSome proper valid
  by_cases member : (scope, Statement.label name) ∈ listed
  · rw [faultAfter, if_pos member]
    exact if_pos (known.mpr member)
  · rw [faultAfter, if_neg member]
    refine (if_neg fun found => member (known.mp found)).trans ?_
    simp [Outcome.checked, ofListing, address, labelsFrom_append, totalSize, labelsFrom,
      Statement.size, Statement.piece?]

theorem addWord_natCast (draft : Draft) {word : Nat} (small : word < 2 ^ 16) :
    draft.addWord word = .ok (draft.addBytes (bigEndian word)) := by
  rw [addWord, wordBytes?_natCast small]
  rfl

theorem addLink_named (draft : Draft) (base mask : Int) {target : Reference}
    (named : target.Named) :
    draft.addLink base mask target =
      .ok (draft.push (.link base mask (target.fullName draft.scope))) := by
  rw [addLink, named.resolve]
  rfl

/-- An instruction without overflow adds its word, or a link if a reference is left open. -/
theorem addInstruction_eq (draft : Draft) {form : Form} {operands : List (Operand Int)}
    (fit : Fit (0 ≤ ·) form.slots operands) :
    draft.addInstruction form.opcode (form.fields.zip operands) =
      match form.overflow? operands, (references operands).head? with
      | some fault, _ => .error (.rejected fault)
      | none, some target => draft.addLink (form.word operands) 0x0FFF target
      | none, none => draft.addWord (form.word operands) := by
  rw [addInstruction, encode_eq fit, Outcome.checked_bind]
  cases form.overflow? operands with
  | some fault => rfl
  | none =>
    rw [Option.map_none]
    cases (references operands).head? <;> rfl

theorem addInstruction_ofListing {form : Form} {operands : List (Operand Int)}
    (fit : Fit (0 ≤ ·) form.slots operands) :
    (ofListing scope listed).addInstruction form.opcode (form.fields.zip operands) =
      Outcome.checked ((faultAfter listed scope (.instruction form operands)).map .rejected)
        (ofListing scope (listed ++ [(scope, .instruction form operands)])) := by
  rw [addInstruction_eq _ fit, faultAfter]
  cases fits : form.overflow? operands with
  | some fault => rfl
  | none =>
    cases left : (references operands).head? with
    | some target =>
      dsimp only
      rw [addLink_named _ _ _ (fit.named target (List.mem_of_head? left))]
      refine congrArg Except.ok (ofListing_push _ _ ?_ rfl (by simp))
      simp only [Statement.piece?, Statement.target?, left, Statement.base, Statement.mask,
        Nat.cast_ofNat, ofListing]
    | none =>
      dsimp only
      rw [addWord_natCast _ (form.word_lt fit fits)]
      refine congrArg Except.ok (ofListing_push _ _ ?_ rfl (by simp))
      simp only [Statement.piece?, Statement.target?, left, Statement.ownBytes]

theorem byte?_eq {value : Int} (nonneg : 0 ≤ value) :
    byte? value =
      Outcome.checked ((if 0xFF < value then some (.byteOutOfRange value) else none).map .rejected)
        (UInt8.ofNat value.toNat) := by
  by_cases large : 0xFF < value
  · rw [byte?, if_neg (by omega), if_pos large]
    rfl
  · rw [byte?, if_pos (by omega), if_neg large]
    rfl

theorem addByteRow_ofListing {values : List Int} (nonneg : ∀ value ∈ values, 0 ≤ value) :
    (ofListing scope listed).addByteRow values =
      Outcome.checked ((faultAfter listed scope (.bytes values)).map .rejected)
        (ofListing scope (listed ++ [(scope, .bytes values)])) := by
  have row := Outcome.mapM_checked _ _ fun value member => byte?_eq (nonneg value member)
  rw [addByteRow, row, faultAfter, List.map_findSome?]
  simp only [Function.comp_def]
  cases values.findSome? _ with
  | some fault => rfl
  | none =>
    refine congrArg Except.ok (ofListing_push (.bytes _) (.bytes values) rfl ?_ (by simp))
    rw [Statement.size, Piece.size, List.length_map]

theorem addOperand_ofListing {operand : Operand Int}
    (admits : Slot.address.Admits (0 ≤ ·) operand) :
    (ofListing scope listed).addOperand operand =
      Outcome.checked ((faultAfter listed scope (.word operand)).map .rejected)
        (ofListing scope (listed ++ [(scope, .word operand)])) := by
  cases admits with
  | reference named =>
    refine (addLink_named _ _ _ named).trans ?_
    exact congrArg Except.ok (ofListing_push _ _ rfl rfl (by simp))
  | @address value nonneg =>
    obtain ⟨word, rfl⟩ := Int.eq_ofNat_of_zero_le nonneg
    by_cases large : 0xFFFF < (word : Int)
    · simp only [addOperand, Operand.value, faultAfter, if_pos large, Option.map_some,
        Outcome.checked]
      exact if_neg (by omega)
    · simp only [addOperand, Operand.value, faultAfter, if_neg large, Option.map_none,
        Outcome.checked]
      refine (if_pos (by omega)).trans ((addWord_natCast _ (by omega)).trans ?_)
      exact congrArg Except.ok (ofListing_push _ _ rfl rfl (by simp))

/-- A statement is added to the draft of what stands before it unless it is at fault there. -/
theorem addStatement_ofListing (properListed : ∀ entry ∈ listed, entry.2.Proper (0 ≤ ·))
    {statement : Statement Int} (proper : statement.Proper (0 ≤ ·)) :
    (ofListing scope listed).addStatement statement =
      Outcome.checked ((faultAfter listed scope statement).map .rejected)
        (ofListing scope (listed ++ [(scope, statement)])) := by
  cases proper with
  | label valid => exact addLabel_ofListing properListed valid
  | instruction fit => exact addInstruction_ofListing fit
  | bytes _ values => exact addByteRow_ofListing values
  | word admits => exact addOperand_ofListing admits
  | unknown text => rfl

/-- Statements of one module are added up to the first that is at fault. -/
theorem addStatements_ofListing (properListed : ∀ entry ∈ listed, entry.2.Proper (0 ≤ ·))
    {statements : List (Statement Int)}
    (proper : ∀ statement ∈ statements, statement.Proper (0 ≤ ·)) :
    (ofListing scope listed).addStatements statements =
      Outcome.checked ((firstFault listed (statements.map fun s => (scope, s))).map .rejected)
        (ofListing scope (listed ++ statements.map fun s => (scope, s))) := by
  induction statements generalizing listed with
  | nil => simp [addStatements, firstFault, Outcome.checked, pure, Except.pure]
  | cons statement rest ih =>
    have here : (ofListing scope listed).addStatement statement = _ :=
      addStatement_ofListing properListed (proper statement (List.mem_cons_self ..))
    have properNext : ∀ entry ∈ listed ++ [(scope, statement)], entry.2.Proper (0 ≤ ·) := by
      intro entry member
      rcases List.mem_append.mp member with earlier | same
      · exact properListed entry earlier
      · rw [List.mem_singleton.mp same]
        exact proper statement (List.mem_cons_self ..)
    have later := ih properNext fun other member => proper other (List.mem_cons_of_mem _ member)
    rw [addStatements, List.foldlM_cons, here, List.map_cons, firstFault, Outcome.checked_bind]
    cases faultAfter listed scope statement with
    | some fault => rfl
    | none =>
      rw [List.append_assoc] at later
      exact later

end Draft

/-! ## Sources -/

theorem listing_cons {source : SourceModule} {statements : List (Statement Int)}
    (read : source.statements = .ok statements) (rest : List SourceModule) :
    listing (source :: rest) = (statements.map fun s => (source.name, s)) ++ listing rest := by
  rw [listing, List.flatMap_cons, SourceModule.statements_eq_ok.mp read, Option.getD_some]
  rfl

theorem listing_append (front back : List SourceModule) :
    listing (front ++ back) = listing front ++ listing back := List.flatMap_append

/-- What is listed is proper. -/
theorem listing_proper (sources : List SourceModule) :
    ∀ entry ∈ listing sources, entry.2.Proper (0 ≤ ·) := by
  intro entry member
  obtain ⟨source, _, here⟩ := List.mem_flatMap.mp member
  obtain ⟨statement, read, rfl⟩ := List.mem_map.mp here
  cases readSource : read? source.text with
  | none =>
    rw [readSource, Option.getD_none] at read
    contradiction
  | some statements =>
    rw [readSource, Option.getD_some] at read
    have went := SourceModule.statements_eq_ok.mpr readSource
    exact SourceModule.statements_proper went statement read

/-- Sources that can be read are added up to the first statement that is at fault. -/
theorem foldlM_addModule {sources : List SourceModule}
    (readable : ∀ source ∈ sources, ∃ statements, source.statements = .ok statements)
    {listed : List Listed} (properListed : ∀ entry ∈ listed, entry.2.Proper (0 ≤ ·))
    (scope : String) :
    ∃ last, sources.foldlM Draft.addModule (Draft.ofListing scope listed) =
      Outcome.checked ((firstFault listed (listing sources)).map .rejected)
        (Draft.ofListing last (listed ++ listing sources)) := by
  induction sources generalizing listed scope with
  | nil =>
    refine ⟨scope, ?_⟩
    rw [listing, List.flatMap_nil, List.append_nil]
    rfl
  | cons source rest ih =>
    obtain ⟨statements, read⟩ := readable source (List.mem_cons_self ..)
    have here : (Draft.ofListing scope listed).addModule source = _ :=
      (congrArg (· >>= _) read).trans <| Draft.addStatements_ofListing properListed
        (SourceModule.statements_proper read)
    have properNext : ∀ entry ∈ listed ++ statements.map fun s => (source.name, s),
        entry.2.Proper (0 ≤ ·) := by
      intro entry member
      rcases List.mem_append.mp member with earlier | same
      · exact properListed entry earlier
      · obtain ⟨statement, here, rfl⟩ := List.mem_map.mp same
        exact SourceModule.statements_proper read statement here
    obtain ⟨last, later⟩ := ih (fun other member => readable other (List.mem_cons_of_mem _ member))
      properNext source.name
    refine ⟨last, ?_⟩
    rw [List.foldlM_cons, here, Outcome.checked_bind, listing_cons read, firstFault_append]
    cases firstFault listed (statements.map fun s => (source.name, s)) with
    | some fault => rfl
    | none =>
      rw [← List.append_assoc]
      exact later

/-- The first pass gives the draft of the listing unless a statement is at fault. -/
theorem draft_eq {sources : List SourceModule}
    (readable : ∀ source ∈ sources, ∃ statements, source.statements = .ok statements) :
    ∃ scope, draft sources =
      Outcome.checked ((firstFault [] (listing sources)).map .rejected)
        (Draft.ofListing scope (listing sources)) := by
  have properNone : ∀ entry ∈ ([] : List Listed), entry.2.Proper (0 ≤ ·) := by simp
  exact foldlM_addModule readable properNone "<global>"

/-- What has a draft can be read. -/
theorem readable_of_foldlM_addModule {sources : List SourceModule} {start first : Draft}
    (drafted : sources.foldlM Draft.addModule start = .ok first) :
    ∀ source ∈ sources, ∃ statements, source.statements = .ok statements := by
  induction sources generalizing start with
  | nil => simp
  | cons source rest ih =>
    rw [List.foldlM_cons] at drafted
    obtain ⟨next, here, later⟩ := Outcome.bind_eq_ok.mp drafted
    obtain ⟨statements, read, _⟩ := Outcome.bind_eq_ok.mp here
    intro other member
    rcases List.mem_cons.mp member with rfl | earlier
    · exact ⟨statements, read⟩
    · exact ih later other earlier

/-- Sources go through the first pass if they can be read and no statement is at fault. -/
theorem exists_draft_iff {sources : List SourceModule} :
    (∃ first, draft sources = .ok first) ↔
      (∀ source ∈ sources, ∃ statements, source.statements = .ok statements) ∧
        firstFault [] (listing sources) = none := by
  constructor
  · rintro ⟨first, drafted⟩
    have readable := readable_of_foldlM_addModule drafted
    obtain ⟨last, outcome⟩ := draft_eq readable
    have fine := (Outcome.checked_eq_ok.mp (outcome.symm.trans drafted)).1
    exact ⟨readable, Option.map_eq_none_iff.mp fine⟩
  · rintro ⟨readable, fine⟩
    obtain ⟨last, outcome⟩ := draft_eq readable
    rw [fine] at outcome
    exact ⟨_, outcome⟩

theorem eq_ofListing {sources : List SourceModule} {first : Draft}
    (drafted : draft sources = .ok first) :
    first = .ofListing first.scope (listing sources) := by
  obtain ⟨last, outcome⟩ := draft_eq (readable_of_foldlM_addModule drafted)
  have same := (Outcome.checked_eq_ok.mp (outcome.symm.trans drafted)).2
  rw [← same]
  rfl

end Chip8.Assembly
