import Chip8.Assembly.Program
import Chip8.Proofs.Assembly.Literals
import Chip8.Proofs.Assembly.Names
import Chip8.Proofs.Outcome

/-! # Statements as sources can contain them

In a proper statement names are names and the operands of an instruction fit the slots of its form:
registers stand where registers belong, and a reference only where an address does. Whatever the
source, every statement that is read from it is proper, and none of its numbers is negative
(`SourceModule.statements_proper`).
-/

namespace Chip8.Assembly

variable {ν μ : Type} {valid : ν → Prop}

/-- What may stand in a slot that fills a field. -/
inductive Slot.Admits (valid : ν → Prop) : Slot → Operand ν → Prop where
  | x (number : Register) : Admits valid .x (.register number)
  | y (number : Register) : Admits valid .y (.register number)
  | digit {value : ν} : valid value → Admits valid .digit (.number value)
  | byte {value : ν} : valid value → Admits valid .byte (.number value)
  | address {value : ν} : valid value → Admits valid .address (.number value)
  | reference {target : Reference} : target.Named → Admits valid .address (.reference target)

/-- The operands of a row of slots, of which the fixed ones take none. -/
inductive Fit (valid : ν → Prop) : List Slot → List (Operand ν) → Prop where
  | nil : Fit valid [] []
  | fixed {text : String} {slots : List Slot} {operands : List (Operand ν)} :
      Fit valid slots operands → Fit valid (.fixed text :: slots) operands
  | field {slot : Slot} {operand : Operand ν} {slots : List Slot} {operands : List (Operand ν)} :
      slot.Admits valid operand → Fit valid slots operands →
        Fit valid (slot :: slots) (operand :: operands)

/-- A statement as sources can contain it. -/
inductive Statement.Proper (valid : ν → Prop) : Statement ν → Prop where
  | label {name : String} : IsName name → Proper valid (.label name)
  | instruction {form : Form} {operands : List (Operand ν)} :
      Fit valid form.slots operands → Proper valid (.instruction form operands)
  | bytes {values : List ν} : values ≠ [] → (∀ value ∈ values, valid value) →
      Proper valid (.bytes values)
  | word {operand : Operand ν} : Slot.address.Admits valid operand → Proper valid (.word operand)
  | unknown (text : String) : Proper valid (.unknown text)

theorem Statement.Proper.isName {name : String}
    (proper : (Statement.label name).Proper valid) : IsName name := by
  cases proper with
  | label isName => exact isName

/-- A slot that admits an operand fills a field. -/
theorem Slot.Admits.field {slot : Slot} {operand : Operand ν} (admits : slot.Admits valid operand) :
    ∃ field, slot.field? = some field := by
  cases admits <;> exact ⟨_, rfl⟩

/-- Every field of a form has its operand. -/
theorem Fit.length {slots : List Slot} {operands : List (Operand ν)}
    (fit : Fit valid slots operands) :
    operands.length = (slots.filterMap Slot.field?).length := by
  induction fit with
  | nil => rfl
  | fixed _ ih => exact ih
  | field admits _ ih =>
    obtain ⟨field, same⟩ := admits.field
    rw [List.length_cons, List.filterMap_cons_some same, List.length_cons, ih]

/-! ## Tokens -/

namespace Cursor

variable {cursor behind : Cursor}

theorem markedDigits?_digits {start : Cursor} {isMark test : Char → Bool} {text : List Char}
    (found : start.markedDigits? isMark test = some (text, behind)) :
    ∃ mark digits, text = '0' :: mark :: digits ∧ isMark mark ∧ digits ≠ [] ∧
      ∀ c ∈ digits, test c := by
  unfold markedDigits? at found
  split at found
  · rename_i mark rest _
    split at found
    · rename_i marks
      have all := passWhile_all test mark rest
      split at found
      · contradiction
      · rename_i digits place filled passed
        cases found
        rw [passed] at all
        exact ⟨mark, digits, rfl, marks, filled, all⟩
    · contradiction
  · contradiction

theorem numeral?_isLiteral {text : List Char} (found : cursor.numeral? = some (text, behind)) :
    IsLiteral text := by
  simp only [numeral?] at found
  split at found
  · rename_i hex
    cases found
    obtain ⟨mark, digits, rfl, marks, filled, all⟩ := markedDigits?_digits hex
    refine ⟨.hexadecimal (mark == 'X') digits, ⟨filled, all⟩, ?_⟩
    simp only [Bool.or_eq_true, beq_iff_eq] at marks
    rcases marks with rfl | rfl <;> rfl
  · split at found
    · rename_i binary
      cases found
      obtain ⟨mark, digits, rfl, marks, filled, all⟩ := markedDigits?_digits binary
      refine ⟨.binary (mark == 'B') digits, ⟨filled, all⟩, ?_⟩
      simp only [Bool.or_eq_true, beq_iff_eq] at marks
      rcases marks with rfl | rfl <;> rfl
    · have all := passWhile_all Char.isDigit cursor.skipSpace.before cursor.skipSpace.rest
      split at found
      · contradiction
      · rename_i filled passed
        cases found
        rw [run] at passed
        rw [passed] at all
        exact ⟨.decimal text, ⟨filled, all⟩, rfl⟩

theorem reference?_named {target : Reference} (found : cursor.reference? = some (target, behind)) :
    target.Named := by
  simp only [reference?, Option.bind_eq_bind, Option.bind_eq_some_iff, Prod.exists] at found
  obtain ⟨mark, _, first, named, name, found⟩ := found
  have firstName := name?_isName name
  split at found
  · cases found
    exact .near firstName
  · simp only [Option.bind_eq_some_iff, Prod.exists] at found
    obtain ⟨second, last, name, found⟩ := found
    cases found
    exact .far firstName (name?_isName name)

theorem address?_admits {operand : Operand (List Char)}
    (found : cursor.address? = some (operand, behind)) :
    Slot.address.Admits IsLiteral operand := by
  unfold address? at found
  split at found
  · rename_i numeral
    cases found
    exact .address (numeral?_isLiteral numeral)
  · simp only [Option.map_eq_some_iff, Prod.exists] at found
    obtain ⟨target, place, reference, found⟩ := found
    cases found
    exact .reference (reference?_named reference)

/-! ## Statements -/

/-- A slot that fills a field reads what it admits; a fixed one reads no operand. -/
theorem operand?_admits {slot : Slot} {operand : Option (Operand (List Char))}
    (found : cursor.operand? slot = some (operand, behind)) :
    (∃ text, slot = .fixed text ∧ operand = none) ∨
      ∃ here, operand = some here ∧ slot.Admits IsLiteral here := by
  cases slot with
  | x =>
    simp only [operand?, Option.map_eq_some_iff, Prod.exists] at found
    obtain ⟨number, place, _, found⟩ := found
    cases found
    exact .inr ⟨_, rfl, .x number⟩
  | y =>
    simp only [operand?, Option.map_eq_some_iff, Prod.exists] at found
    obtain ⟨number, place, _, found⟩ := found
    cases found
    exact .inr ⟨_, rfl, .y number⟩
  | digit =>
    simp only [operand?, Option.map_eq_some_iff, Prod.exists] at found
    obtain ⟨text, place, numeral, found⟩ := found
    cases found
    exact .inr ⟨_, rfl, .digit (numeral?_isLiteral numeral)⟩
  | byte =>
    simp only [operand?, Option.map_eq_some_iff, Prod.exists] at found
    obtain ⟨text, place, numeral, found⟩ := found
    cases found
    exact .inr ⟨_, rfl, .byte (numeral?_isLiteral numeral)⟩
  | address =>
    simp only [operand?, Option.map_eq_some_iff, Prod.exists] at found
    obtain ⟨operand, place, address, found⟩ := found
    cases found
    exact .inr ⟨_, rfl, address?_admits address⟩
  | fixed text =>
    simp only [operand?, Option.map_eq_some_iff] at found
    obtain ⟨place, _, found⟩ := found
    cases found
    exact .inl ⟨text, rfl, rfl⟩

theorem operands?_fit {first : Bool} {slots : List Slot} {operands : List (Operand (List Char))}
    (found : cursor.operands? first slots = some (operands, behind)) :
    Fit IsLiteral slots operands := by
  induction slots generalizing cursor first operands with
  | nil =>
    cases found
    exact .nil
  | cons slot slots ih =>
    simp only [operands?, Option.bind_eq_bind, Option.bind_eq_some_iff, Prod.exists] at found
    obtain ⟨start, _, operand, place, here, rest, last, others, found⟩ := found
    cases found
    rcases operand?_admits here with ⟨text, rfl, rfl⟩ | ⟨operand, rfl, admits⟩
    · exact .fixed (ih others)
    · exact .field admits (ih others)

theorem form?_proper {form : Form} {statement : Statement (List Char)}
    (found : cursor.form? form = some (statement, behind)) : statement.Proper IsLiteral := by
  simp only [form?, Option.bind_eq_bind, Option.bind_eq_some_iff, Prod.exists] at found
  obtain ⟨start, _, operands, place, read, found⟩ := found
  cases found
  exact .instruction (operands?_fit read)

theorem moreNumerals_isLiteral (count : Nat) (cursor : Cursor) :
    ∀ text ∈ (moreNumerals count cursor).1, IsLiteral text := by
  induction count generalizing cursor with
  | zero => simp [moreNumerals]
  | succ count ih =>
    unfold moreNumerals
    split
    · simp
    · rename_i text place next
      simp only [nextNumeral?, Option.bind_eq_bind, Option.bind_eq_some_iff] at next
      obtain ⟨start, _, numeral⟩ := next
      intro other member
      rcases List.mem_cons.mp member with rfl | later
      · exact numeral?_isLiteral numeral
      · exact ih place other later

theorem bytes?_proper {statement : Statement (List Char)}
    (found : cursor.bytes? = some (statement, behind)) : statement.Proper IsLiteral := by
  simp only [bytes?, Option.bind_eq_bind, Option.bind_eq_some_iff, Prod.exists] at found
  obtain ⟨start, _, text, place, numeral, found⟩ := found
  cases found
  refine .bytes (List.cons_ne_nil _ _) ?_
  intro other member
  rcases List.mem_cons.mp member with rfl | later
  · exact numeral?_isLiteral numeral
  · exact moreNumerals_isLiteral _ place other later

theorem statement?_proper {statement : Statement (List Char)}
    (found : cursor.statement? = some (statement, behind)) : statement.Proper IsLiteral := by
  simp only [statement?, Option.or_eq_some_iff] at found
  rcases found with label | ⟨_, instruction | ⟨_, bytes | ⟨_, word | ⟨_, unknown⟩⟩⟩⟩
  · simp only [label?, Option.bind_eq_bind, Option.bind_eq_some_iff, Prod.exists] at label
    obtain ⟨name, _, read, _, _, same⟩ := label
    cases same
    exact .label (name?_isName read)
  · obtain ⟨form, _, read⟩ := List.mem_filterMap.mp (furthest?_mem instruction)
    exact form?_proper read
  · exact bytes?_proper bytes
  · simp only [word?, Option.bind_eq_bind, Option.bind_eq_some_iff, Prod.exists] at word
    obtain ⟨_, _, operand, _, read, same⟩ := word
    cases same
    exact .word (address?_admits read)
  · simp only [unknown?] at unknown
    split at unknown
    · contradiction
    · cases unknown
      exact .unknown _

/-- Everything that is read from a place on is proper. -/
theorem statements_proper (cursor : Cursor) :
    ∀ statement ∈ cursor.statements, statement.Proper IsLiteral := by
  fun_induction Cursor.statements cursor with
  | case1 cursor stop => simp
  | case2 cursor statement behind found ih =>
    intro other member
    rcases List.mem_append.mp member with here | later
    · have same : statement = some other := Option.mem_toList.mp here
      subst same
      simp only [next?] at found
      split at found
      · cases found
      · simp only [Option.map_eq_some_iff, Prod.exists] at found
        obtain ⟨_, _, read, same⟩ := found
        cases same
        exact statement?_proper read
    · exact ih other later

end Cursor

/-! ## Values -/

def Operand.numbers : Operand ν → List ν
  | .number value => [value]
  | .register _ | .reference _ => []

def Statement.numbers : Statement ν → List ν
  | .instruction _ operands => operands.flatMap Operand.numbers
  | .bytes values => values
  | .word operand => operand.numbers
  | .label _ | .unknown _ => []

theorem Slot.Admits.numbers {slot : Slot} {operand : Operand ν}
    (admits : slot.Admits valid operand) :
    ∀ v ∈ operand.numbers, valid v := by
  cases admits <;> simp_all [Operand.numbers]

theorem Fit.numbers {slots : List Slot} {operands : List (Operand ν)}
    (fit : Fit valid slots operands) :
    ∀ v ∈ operands.flatMap Operand.numbers, valid v := by
  induction fit with
  | nil => simp
  | fixed _ ih => exact ih
  | field admits _ ih =>
    intro v member
    rcases List.mem_append.mp member with here | later
    · exact admits.numbers v here
    · exact ih v later

/-- The numbers of a proper statement are valid. -/
theorem Statement.Proper.numbers {statement : Statement ν} (proper : statement.Proper valid) :
    ∀ v ∈ statement.numbers, valid v := by
  cases proper with
  | label name => simp [Statement.numbers]
  | instruction fit => exact fit.numbers
  | bytes _ values => exact values
  | word admits => exact admits.numbers
  | unknown text => simp [Statement.numbers]

section MapNumbers

variable {read : ν → Option μ} {validValue : μ → Prop}

theorem Slot.Admits.mapNumber? (keeps : ∀ v m, valid v → read v = some m → validValue m)
    {slot : Slot} {operand : Operand ν} {mapped : Operand μ} (admits : slot.Admits valid operand)
    (reads : operand.mapNumber? read = some mapped) : slot.Admits validValue mapped := by
  cases admits with
  | x number => cases reads; exact .x number
  | y number => cases reads; exact .y number
  | digit value =>
    obtain ⟨m, here, rfl⟩ := Option.map_eq_some_iff.mp reads
    exact .digit (keeps _ m value here)
  | byte value =>
    obtain ⟨m, here, rfl⟩ := Option.map_eq_some_iff.mp reads
    exact .byte (keeps _ m value here)
  | address value =>
    obtain ⟨m, here, rfl⟩ := Option.map_eq_some_iff.mp reads
    exact .address (keeps _ m value here)
  | reference named => cases reads; exact .reference named

theorem Fit.mapNumbers? (keeps : ∀ v m, valid v → read v = some m → validValue m)
    {slots : List Slot} {operands : List (Operand ν)} {mapped : List (Operand μ)}
    (fit : Fit valid slots operands)
    (reads : List.Forall₂ (fun operand m => operand.mapNumber? read = some m) operands mapped) :
    Fit validValue slots mapped := by
  induction fit generalizing mapped with
  | nil => cases reads; exact .nil
  | fixed _ ih => exact .fixed (ih reads)
  | field admits _ ih =>
    obtain _ | ⟨here, others⟩ := reads
    exact .field (admits.mapNumber? keeps here) (ih others)

/-- Reading the numbers of a proper statement gives a proper statement. -/
theorem Statement.Proper.mapNumbers? (keeps : ∀ v m, valid v → read v = some m → validValue m)
    {statement : Statement ν} {mapped : Statement μ} (proper : statement.Proper valid)
    (reads : statement.mapNumbers? read = some mapped) : mapped.Proper validValue := by
  cases proper with
  | label name => cases reads; exact .label name
  | instruction fit =>
    obtain ⟨operands, each, rfl⟩ := Option.map_eq_some_iff.mp reads
    exact .instruction (fit.mapNumbers? keeps (Outcome.mapM_eq_some.mp each))
  | bytes filled values =>
    obtain ⟨numbers, each, rfl⟩ := Option.map_eq_some_iff.mp reads
    refine .bytes ?_ ?_
    · rintro rfl
      cases Outcome.mapM_eq_some.mp each
      contradiction
    · intro m member
      obtain ⟨v, source, here⟩ := Outcome.mem_of_mapM_eq_some each member
      exact keeps v m (values v source) here
  | word admits =>
    obtain ⟨operand, here, rfl⟩ := Option.map_eq_some_iff.mp reads
    exact .word (admits.mapNumber? keeps here)
  | unknown text => cases reads; exact .unknown text

/-- Where every number of an operand can be read, the operand can. -/
theorem Operand.exists_mapNumber? {operand : Operand ν}
    (each : ∀ v ∈ operand.numbers, ∃ m, read v = some m) :
    ∃ mapped, operand.mapNumber? read = some mapped := by
  cases operand with
  | register number => exact ⟨_, rfl⟩
  | reference target => exact ⟨_, rfl⟩
  | number value =>
    obtain ⟨m, reads⟩ := each value (List.mem_singleton_self _)
    exact ⟨.number m, by rw [mapNumber?, reads]; rfl⟩

/-- Where every number of a statement can be read, the statement can. -/
theorem Statement.exists_mapNumbers? {statement : Statement ν}
    (each : ∀ v ∈ statement.numbers, ∃ m, read v = some m) :
    ∃ mapped, statement.mapNumbers? read = some mapped := by
  cases statement with
  | label name => exact ⟨_, rfl⟩
  | unknown text => exact ⟨_, rfl⟩
  | instruction form operands =>
    obtain ⟨mapped, reads⟩ : ∃ mapped, operands.mapM (Operand.mapNumber? read) = some mapped := by
      apply Outcome.exists_mapM_eq_some
      intro operand member
      apply Operand.exists_mapNumber?
      intro v number
      exact each v (List.mem_flatMap.mpr ⟨operand, member, number⟩)
    exact ⟨.instruction form mapped, by rw [mapNumbers?, reads]; rfl⟩
  | bytes values =>
    obtain ⟨mapped, reads⟩ : ∃ mapped, values.mapM read = some mapped :=
      Outcome.exists_mapM_eq_some each
    exact ⟨.bytes mapped, by rw [mapNumbers?, reads]; rfl⟩
  | word operand =>
    obtain ⟨mapped, reads⟩ := Operand.exists_mapNumber? each
    exact ⟨.word mapped, by rw [mapNumbers?, reads]; rfl⟩

end MapNumbers

/-! ## Sources -/

/-- A literal in base ten with more digits than can be read. -/
def IsLongDecimal (text : List Char) : Prop :=
  (∀ c ∈ text, c.isDigit) ∧ Text.maxDecimalDigits < text.length

instance : DecidablePred IsLongDecimal := fun text =>
  @instDecidableAnd _ _ (List.decidableBAll _ text) (Nat.decLt _ _)

theorem SourceModule.statements_eq_ok {source : SourceModule} {statements : List (Statement Int)} :
    source.statements = .ok statements ↔ read? source.text = some statements := by
  rw [SourceModule.statements]
  cases read? source.text <;> simp

/-- The statements of a source are proper, and none of their numbers is negative. -/
theorem SourceModule.statements_proper {source : SourceModule} {statements : List (Statement Int)}
    (read : source.statements = .ok statements) :
    ∀ statement ∈ statements, statement.Proper (0 ≤ ·) := by
  intro statement member
  have readText := SourceModule.statements_eq_ok.mp read
  obtain ⟨written, source, mapped⟩ := Outcome.mem_of_mapM_eq_some readText member
  refine (Cursor.statements_proper _ written source).mapNumbers? ?_ mapped
  rintro text value ⟨literal, valid, rfl⟩ reads
  exact valid.numeralValue?_nonneg reads

/-- A source can be read if none of its numbers has too many decimal digits. -/
theorem exists_read_of_short {source : String}
    (short : ∀ statement ∈ readStatements source, ∀ text ∈ statement.numbers,
      ¬IsLongDecimal text) : ∃ statements, read? source = some statements := by
  apply Outcome.exists_mapM_eq_some
  intro statement member
  apply Statement.exists_mapNumbers?
  intro text number
  obtain ⟨literal, valid, rfl⟩ : IsLiteral text :=
    (Cursor.statements_proper _ statement member).numbers text number
  refine ⟨literal.value, valid.numeralValue?_of_short ?_⟩
  cases literal with
  | hexadecimal => trivial
  | binary => trivial
  | decimal digits =>
    apply Nat.le_of_not_lt
    intro many
    exact short statement member digits number ⟨valid.digit, many⟩

theorem SourceModule.exists_statements {source : SourceModule}
    (short : ∀ statement ∈ readStatements source.text, ∀ text ∈ statement.numbers,
      ¬IsLongDecimal text) : ∃ statements, source.statements = .ok statements := by
  obtain ⟨statements, read⟩ := exists_read_of_short short
  exact ⟨statements, SourceModule.statements_eq_ok.mpr read⟩

end Chip8.Assembly
