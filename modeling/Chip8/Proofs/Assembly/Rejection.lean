import Chip8.Proofs.Assembly.Evaluation
import Chip8.Proofs.Assembly.Linking

/-! # Why sources are rejected

Sources whose decimal numbers are not too long are assembled or rejected, and nothing else happens.
They are rejected exactly when their listing is faulty (`Faulty`), and the cause that is reported is
that of the first faulty statement, or else of the first reference to nothing, or else the size
(`Reported`).
-/

namespace Chip8.Assembly

def Statement.references : Statement Int → List Reference
  | .instruction _ operands => Assembly.references operands
  | .word operand => operand.target?.toList
  | .label _ | .bytes _ | .unknown _ => []

/-- Whether a reference in a module means a label that is listed. -/
def Reference.Listed (listed : List Listed) (scope : String) (target : Reference) : Prop :=
  ((target.meaning scope).1, .label (target.meaning scope).2) ∈ listed

/-- What is wrong with a statement of a module behind other statements. -/
inductive FaultAt (earlier : List Listed) : Listed → Rejection → Prop where
  | unknown (scope text : String) :
      FaultAt earlier (scope, .unknown text) (.unknownStatement scope text)
  | operand {form : Form} {operands : List (Operand Int)} {field : Field} {value : Int}
      (scope : String) : (field, .number value) ∈ form.fields.zip operands → field.limit < value →
      FaultAt earlier (scope, .instruction form operands)
        (.operandOutOfRange value form.opcode field.limit)
  | byte {values : List Int} {value : Int} (scope : String) : value ∈ values → 0xFF < value →
      FaultAt earlier (scope, .bytes values) (.byteOutOfRange value)
  | word {value : Int} (scope : String) : 0xFFFF < value →
      FaultAt earlier (scope, .word (.number value)) (.wordOutOfRange value)
  | duplicate {scope name : String} : (scope, .label name) ∈ earlier →
      FaultAt earlier (scope, .label name) (.duplicateLabel (qualify scope name))

/-- What is wrong with a listing, whatever else is. -/
inductive Faulty (listed : List Listed) : Prop where
  | unknown {scope text : String} : (scope, .unknown text) ∈ listed → Faulty listed
  | operand {scope : String} {form : Form} {operands : List (Operand Int)} {field : Field}
      {value : Int} : (scope, .instruction form operands) ∈ listed →
      (field, .number value) ∈ form.fields.zip operands → field.limit < value → Faulty listed
  | byte {scope : String} {values : List Int} {value : Int} : (scope, .bytes values) ∈ listed →
      value ∈ values → 0xFF < value → Faulty listed
  | word {scope : String} {value : Int} : (scope, .word (.number value)) ∈ listed →
      0xFFFF < value → Faulty listed
  | duplicate {scope name : String} {i j : Nat} : i < j → listed[i]? = some (scope, .label name) →
      listed[j]? = some (scope, .label name) → Faulty listed
  | undefined {scope : String} {statement : Statement Int} {target : Reference} :
      (scope, statement) ∈ listed → target ∈ statement.references →
      ¬target.Listed listed scope → Faulty listed
  | size : maxProgramSize < totalSize listed → Faulty listed

/-- No statement is at fault behind those before it. -/
def Faultless (listed : List Listed) : Prop :=
  ∀ before entry after, listed = before ++ entry :: after → ∀ cause, ¬FaultAt before entry cause

/-- Every reference of some statements means a label that is listed. -/
def Resolved (listed entries : List Listed) : Prop :=
  ∀ entry ∈ entries, ∀ target ∈ entry.2.references, target.Listed listed entry.1

/-- What is reported about a listing: its first faulty statement, or else its first reference to
nothing, or else its size. -/
inductive Reported (listed : List Listed) : Rejection → Prop where
  | statement {before after : List Listed} {entry : Listed} {cause : Rejection} :
      listed = before ++ entry :: after → Faultless before → FaultAt before entry cause →
      Reported listed cause
  | reference {before after : List Listed} {entry : Listed} {target : Reference} :
      Faultless listed → listed = before ++ entry :: after → Resolved listed before →
      target ∈ entry.2.references → ¬target.Listed listed entry.1 →
      Reported listed (.undefinedLabel (target.fullName entry.1))
  | size : Faultless listed → Resolved listed listed → maxProgramSize < totalSize listed →
      Reported listed (.programTooLarge (totalSize listed))

variable {listed : List Listed}

/-! ## The first pass -/

theorem faultAt_of_faultAfter {earlier : List Listed} {entry : Listed} {cause : Rejection}
    (fault : faultAfter earlier entry.1 entry.2 = some cause) : FaultAt earlier entry cause := by
  obtain ⟨scope, statement⟩ := entry
  cases statement with
  | label name =>
    obtain ⟨member, ⟨⟩⟩ := Option.ite_none_right_eq_some.mp fault
    exact .duplicate member
  | unknown text =>
    cases fault
    exact .unknown scope text
  | bytes values =>
    obtain ⟨value, member, here⟩ := List.exists_of_findSome?_eq_some fault
    obtain ⟨large, ⟨⟩⟩ := Option.ite_none_right_eq_some.mp here
    exact .byte scope member large
  | instruction form operands =>
    obtain ⟨⟨field, operand⟩, member, here⟩ := List.exists_of_findSome?_eq_some fault
    cases operand with
    | number value =>
      obtain ⟨large, ⟨⟩⟩ := Option.ite_none_right_eq_some.mp here
      exact .operand scope member large
    | register number => cases here
    | reference target => cases here
  | word operand =>
    cases operand with
    | number value =>
      obtain ⟨large, ⟨⟩⟩ := Option.ite_none_right_eq_some.mp fault
      exact .word scope large
    | register number => cases fault
    | reference target => cases fault

theorem faultAfter_ne_none {earlier : List Listed} {entry : Listed} {cause : Rejection}
    (fault : FaultAt earlier entry cause) : faultAfter earlier entry.1 entry.2 ≠ none := by
  intro fine
  cases fault with
  | unknown => cases fine
  | operand scope member large =>
    have here := List.findSome?_eq_none_iff.mp fine _ member
    rw [overflow?_number, if_pos large] at here
    contradiction
  | byte scope member large =>
    have here := List.findSome?_eq_none_iff.mp fine _ member
    rw [if_pos large] at here
    contradiction
  | word scope large =>
    rw [faultAfter, if_pos large] at fine
    contradiction
  | duplicate member =>
    dsimp only at fine
    rw [faultAfter, if_pos member] at fine
    contradiction

theorem faultless_iff : Faultless listed ↔ firstFault [] listed = none := by
  rw [firstFault_eq_none]
  constructor
  · intro faultless before entry after same
    cases fault : faultAfter ([] ++ before) entry.1 entry.2 with
    | none => rfl
    | some cause =>
      exact absurd (faultAt_of_faultAfter fault) (faultless before entry after same cause)
  · intro fine before entry after same cause fault
    exact faultAfter_ne_none fault (fine before entry after same)

/-! ## The second pass -/

private theorem head?_eq_some_iff_mem {α : Type} {xs : List α} (few : xs.length ≤ 1) {x : α} :
    xs.head? = some x ↔ x ∈ xs := by
  cases xs with
  | nil => simp
  | cons first rest =>
    have last : rest = [] :=
      List.eq_nil_of_length_eq_zero (Nat.le_zero.mp (Nat.le_of_succ_le_succ few))
    rw [last, List.head?_cons, List.mem_singleton, Option.some.injEq, eq_comm]

theorem Statement.Proper.target?_eq_some {statement : Statement Int}
    (proper : statement.Proper (0 ≤ ·)) {target : Reference} :
    statement.target? = some target ↔ target ∈ statement.references := by
  cases proper with
  | label => simp [target?, references]
  | bytes => simp [target?, references]
  | unknown => simp [target?, references]
  | word => simp [target?, references]
  | instruction fit => exact head?_eq_some_iff_mem fit.references_le_one

theorem Statement.Proper.named {statement : Statement Int} (proper : statement.Proper (0 ≤ ·)) :
    ∀ target ∈ statement.references, target.Named := by
  cases proper with
  | label => simp [references]
  | bytes => simp [references]
  | unknown => simp [references]
  | instruction fit => exact fit.named
  | word admits =>
    cases admits with
    | address => simp [references, Operand.target?]
    | reference named => simpa [references, Operand.target?] using named

theorem addressOf?_reference (properListed : ∀ entry ∈ listed, entry.2.Proper (0 ≤ ·))
    {target : Reference} (named : target.Named) (scope : String) :
    (addressOf? listed (target.fullName scope)).isSome ↔ target.Listed listed scope :=
  addressOf?_isSome properListed (named.meaning scope)

/-- A reference dangles exactly when the label that it means is not listed. -/
theorem dangling?_eq_some (properListed : ∀ entry ∈ listed, entry.2.Proper (0 ≤ ·))
    {scope : String} {statement : Statement Int} (proper : statement.Proper (0 ≤ ·))
    {cause : Rejection} :
    statement.dangling? listed scope = some cause ↔
      ∃ target ∈ statement.references, ¬target.Listed listed scope ∧
        cause = .undefinedLabel (target.fullName scope) := by
  rw [Statement.dangling?, Option.bind_eq_some_iff]
  apply exists_congr
  intro target
  rw [proper.target?_eq_some]
  apply and_congr_right
  intro member
  have known := addressOf?_reference properListed (proper.named target member) scope
  rw [← known]
  cases addressOf? listed (target.fullName scope) with
  | none => simp [eq_comm]
  | some address => simp

theorem resolved_iff (properListed : ∀ entry ∈ listed, entry.2.Proper (0 ≤ ·))
    {entries : List Listed} (proper : ∀ entry ∈ entries, entry.2.Proper (0 ≤ ·)) :
    Resolved listed entries ↔ ∀ entry ∈ entries, entry.2.dangling? listed entry.1 = none := by
  apply forall_congr'
  intro entry
  apply forall_congr'
  intro member
  rw [Option.eq_none_iff_forall_ne_some]
  constructor
  · intro resolved cause dangling
    obtain ⟨target, here, absent, _⟩ :=
      (dangling?_eq_some properListed (proper entry member)).mp dangling
    exact absent (resolved target here)
  · intro fine target here
    by_contra absent
    have dangling := (dangling?_eq_some properListed (proper entry member)).mpr
      ⟨target, here, absent, rfl⟩
    exact fine _ dangling

/-! ## Both passes -/

/-- What is wrong with a listing is reported in the order of the checks. -/
theorem reported_of_rejection? (proper : ∀ entry ∈ listed, entry.2.Proper (0 ≤ ·))
    {cause : Rejection} (rejected : rejection? listed = some cause) : Reported listed cause := by
  rw [rejection?, Option.or_eq_some_iff] at rejected
  rcases rejected with fault | ⟨fine, rejected⟩
  · obtain ⟨before, entry, after, rfl, fineBefore, fault⟩ := exists_of_firstFault_eq_some fault
    exact .statement rfl (faultless_iff.mpr fineBefore) (faultAt_of_faultAfter fault)
  · have faultless := faultless_iff.mpr fine
    rcases Option.or_eq_some_iff.mp rejected with dangling | ⟨linked, size⟩
    · obtain ⟨before, entry, after, same, here, fineBefore⟩ :=
        List.findSome?_eq_some_iff.mp dangling
      have inside : ∀ earlier ∈ before, earlier ∈ listed := by
        intro earlier member
        rw [same]
        exact List.mem_append_left _ member
      have member : entry ∈ listed := List.mem_of_getElem? (getElem?_of_cut same)
      obtain ⟨target, among, absent, rfl⟩ :=
        (dangling?_eq_some proper (proper entry member)).mp here
      have properBefore : ∀ earlier ∈ before, earlier.2.Proper (0 ≤ ·) := fun earlier member =>
        proper earlier (inside earlier member)
      have resolved : Resolved listed before := (resolved_iff proper properBefore).mpr fineBefore
      exact .reference faultless same resolved among absent
    · obtain ⟨large, ⟨⟩⟩ := Option.ite_none_right_eq_some.mp size
      have resolved : Resolved listed listed :=
        (resolved_iff proper proper).mpr (List.findSome?_eq_none_iff.mp linked)
      exact .size faultless resolved large

/-- Whatever is reported, the listing is faulty. -/
theorem Reported.faulty {cause : Rejection} (reported : Reported listed cause) : Faulty listed := by
  cases reported with
  | @statement before after entry cause same _ fault =>
    have member : entry ∈ listed := List.mem_of_getElem? (getElem?_of_cut same)
    cases fault with
    | unknown => exact .unknown member
    | operand _ among large => exact .operand member among large
    | byte _ among large => exact .byte member among large
    | word _ large => exact .word member large
    | @duplicate scope name earlier =>
      obtain ⟨i, inside, first⟩ := List.mem_iff_getElem.mp earlier
      have here : listed[i]? = some (scope, .label name) := by
        rw [same, List.getElem?_append_left inside, List.getElem?_eq_getElem inside, first]
      have there : listed[before.length]? = some (scope, .label name) := getElem?_of_cut same
      exact .duplicate inside here there
  | reference _ same _ among absent =>
    exact .undefined (List.mem_of_getElem? (getElem?_of_cut same)) among absent
  | size _ _ large => exact .size large

theorem Faultless.not_faultAt (faultless : Faultless listed) {i : Nat} {entry : Listed}
    (here : listed[i]? = some entry) (cause : Rejection) :
    ¬FaultAt (listed.take i) entry cause :=
  faultless (listed.take i) entry (listed.drop (i + 1)) (cut_of_getElem? here) cause

/-- A faulty listing does not pass the checks. -/
theorem Faulty.rejection?_ne_none (proper : ∀ entry ∈ listed, entry.2.Proper (0 ≤ ·))
    (faulty : Faulty listed) : rejection? listed ≠ none := by
  intro accepted
  obtain ⟨fine, linked, fits⟩ := rejection?_eq_none.mp accepted
  have faultless := faultless_iff.mpr fine
  cases faulty with
  | unknown member =>
    obtain ⟨i, here⟩ := List.mem_iff_getElem?.mp member
    exact faultless.not_faultAt here _ (.unknown _ _)
  | operand member among large =>
    obtain ⟨i, here⟩ := List.mem_iff_getElem?.mp member
    exact faultless.not_faultAt here _ (.operand _ among large)
  | byte member among large =>
    obtain ⟨i, here⟩ := List.mem_iff_getElem?.mp member
    exact faultless.not_faultAt here _ (.byte _ among large)
  | word member large =>
    obtain ⟨i, here⟩ := List.mem_iff_getElem?.mp member
    exact faultless.not_faultAt here _ (.word _ large)
  | @duplicate scope name i j before here there =>
    have earlier : (scope, Statement.label name) ∈ listed.take j := by
      apply List.mem_of_getElem? (i := i)
      rw [List.getElem?_take_of_lt before]
      exact here
    exact faultless.not_faultAt there _ (.duplicate earlier)
  | undefined member among absent =>
    exact absent ((resolved_iff proper proper).mpr linked _ member _ among)
  | size large => exact Nat.not_lt_of_le fits large

/-- Sources whose decimal numbers are not too long are read to their ends and assembled or rejected.
They are rejected exactly when their listing is faulty, for the first cause in the order of the
checks. -/
theorem assemble_rejected_iff_faulty {sources : List SourceModule}
    (short : ∀ source ∈ sources, ∀ statement ∈ readStatements source.text,
      ∀ text ∈ statement.numbers, ¬IsLongDecimal text) :
    (∀ source ∈ sources,
      (Cursor.ofText (expandTabs 0 source.text.toList)).final.skipSpace.rest = [] ∧
        ∃ statements, read? source.text = some statements) ∧
    ((∃ program, assemble sources = .ok program) ∨
      ∃ cause, assemble sources = .error (.rejected cause)) ∧
    ((∃ cause, assemble sources = .error (.rejected cause)) ↔ Faulty (listing sources)) ∧
    ∀ cause, assemble sources = .error (.rejected cause) → Reported (listing sources) cause := by
  have readable : ∀ source ∈ sources, ∃ statements, source.statements = .ok statements :=
    fun source member => SourceModule.exists_statements (short source member)
  have proper := listing_proper sources
  have outcome := assemble_eq readable
  have reported : ∀ cause, assemble sources = .error (.rejected cause) →
      Reported (listing sources) cause := by
    intro cause rejected
    rw [outcome, Outcome.checked_eq_error] at rejected
    obtain ⟨cause, same, ⟨⟩⟩ := Option.map_eq_some_iff.mp rejected
    exact reported_of_rejection? proper same
  refine ⟨?_, ?_, ?_, reported⟩
  · intro source member
    obtain ⟨statements, read⟩ := readable source member
    exact ⟨Cursor.final_skipSpace _, statements, SourceModule.statements_eq_ok.mp read⟩
  · cases rejection : rejection? (listing sources) with
    | none =>
      rw [rejection] at outcome
      exact .inl ⟨_, outcome⟩
    | some cause =>
      rw [rejection] at outcome
      exact .inr ⟨cause, outcome⟩
  · constructor
    · rintro ⟨cause, rejected⟩
      exact (reported cause rejected).faulty
    · intro faulty
      obtain ⟨cause, rejection⟩ := Option.ne_none_iff_exists'.mp (faulty.rejection?_ne_none proper)
      rw [rejection] at outcome
      exact ⟨cause, outcome⟩

/-- A reference to nothing in front of a label that is defined twice. -/
def definedTwice : List SourceModule :=
  [⟨"main", "jp &lib::gone\nhere: ld v0, 255 // fits\nDB 1, 2"⟩, ⟨"main", "cls here: ret"⟩]

theorem definedTwice_rejected :
    assemble definedTwice = .error (.rejected (.duplicateLabel "main::here")) ∧
      Reported (listing definedTwice) (.duplicateLabel "main::here") := by
  have short : ∀ source ∈ definedTwice, ∀ statement ∈ readStatements source.text,
      ∀ text ∈ statement.numbers, ¬IsLongDecimal text := by
    simp only [readStatements, Cursor.statements_eq (Nat.le_refl _)]
    decide +kernel
  have readable : ∀ source ∈ definedTwice, ∃ statements, source.statements = .ok statements :=
    readable_of_readWithin (by decide +kernel)
  have twice : rejection? (listing definedTwice) = some (.duplicateLabel "main::here") := by
    simp only [listing, read?_eq]
    decide +kernel
  have rejected := assemble_eq readable
  rw [twice] at rejected
  obtain ⟨_, _, _, reported⟩ := assemble_rejected_iff_faulty short
  exact ⟨rejected, reported _ rejected⟩

end Chip8.Assembly
