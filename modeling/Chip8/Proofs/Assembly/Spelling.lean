import Chip8.Proofs.Assembly.Proper

/-! # Spellings

How statements can be written down: their tokens, with blanks between them wherever the reader skips
blanks, at least one of them behind a mnemonic, and with at least one blank or comment between two
statements.
-/

namespace Chip8.Assembly

section Map

variable {ν μ κ : Type}

def Operand.map (change : ν → μ) : Operand ν → Operand μ
  | .register r => .register r
  | .number value => .number (change value)
  | .reference target => .reference target

def Statement.map (change : ν → μ) : Statement ν → Statement μ
  | .label name => .label name
  | .instruction form operands => .instruction form (operands.map (Operand.map change))
  | .bytes values => .bytes (values.map change)
  | .word value => .word (value.map change)
  | .unknown text => .unknown text

variable {write : ν → κ} {read : κ → Option μ} {value : ν → μ}

theorem Operand.mapNumber?_map {operand : Operand ν}
    (each : ∀ v ∈ operand.numbers, read (write v) = some (value v)) :
    (operand.map write).mapNumber? read = some (operand.map value) := by
  cases operand with
  | register number => rfl
  | reference target => rfl
  | number v =>
    rw [Operand.map, Operand.mapNumber?, each v (List.mem_singleton_self v)]
    rfl

/-- Numbers that are read back from their texts give the statement with its values. -/
theorem Statement.mapNumbers?_map {statement : Statement ν}
    (each : ∀ v ∈ statement.numbers, read (write v) = some (value v)) :
    (statement.map write).mapNumbers? read = some (statement.map value) := by
  cases statement with
  | label name => rfl
  | unknown text => rfl
  | instruction form operands =>
    have row : (operands.map (Operand.map write)).mapM (Operand.mapNumber? read) =
        some (operands.map (Operand.map value)) := by
      apply Outcome.mapM_map_eq_some
      intro operand member
      apply Operand.mapNumber?_map
      intro v number
      exact each v (List.mem_flatMap.mpr ⟨operand, member, number⟩)
    rw [Statement.map, Statement.mapNumbers?, row]
    rfl
  | bytes values =>
    have row : (values.map write).mapM read = some (values.map value) :=
      Outcome.mapM_map_eq_some each
    rw [Statement.map, Statement.mapNumbers?, row]
    rfl
  | word operand =>
    rw [Statement.map, Statement.mapNumbers?, Operand.mapNumber?_map each]
    rfl

end Map

/-! ## Tokens -/

/-- A register: its letter, small or capital, and its digit. -/
inductive RegisterText : Register → List Char → Prop where
  | mk {letter digit : Char} : letter = 'v' ∨ letter = 'V' → isHexDigit digit →
      RegisterText (.ofNumber (Cursor.hexDigitValue digit)) [letter, digit]

/-- A reference, with blanks where there may be some. -/
inductive ReferenceText : Reference → List Char → Prop where
  | near {name : String} {gap : List Char} : IsName name → Blanks gap →
      ReferenceText ⟨[name]⟩ ('&' :: (gap ++ name.toList))
  | far {scope name : String} {gap before behind : List Char} : IsName scope → IsName name →
      Blanks gap → Blanks before → Blanks behind →
      ReferenceText ⟨[scope, name]⟩
        ('&' :: (gap ++ (scope.toList ++ (before ++ ':' :: ':' :: (behind ++ name.toList)))))

/-- A number or a reference. -/
inductive AddressText : Operand Literal → List Char → Prop where
  | number {literal : Literal} : literal.Valid → AddressText (.number literal) literal.text
  | reference {target : Reference} {text : List Char} : ReferenceText target text →
      AddressText (.reference target) text

/-- The texts that only tell forms apart. -/
def fixedTexts : List String := ["i", "dt", "st", "k", "f", "b", "v0", "[i]"]

/-- A slot whose text, if it is fixed, is one of those that forms have. -/
def Slot.Known : Slot → Prop
  | .fixed text => text ∈ fixedTexts
  | _ => True

theorem Form.mem_all (form : Form) : form ∈ Form.all := by cases form <;> decide

theorem Form.slots_known (form : Form) : ∀ slot ∈ form.slots, slot.Known := by
  have checked : ∀ form ∈ Form.all, ∀ slot ∈ form.slots,
      (match slot with
        | .fixed text => fixedTexts.contains text
        | _ => true) = true := by
    decide
  intro slot member
  have fact := checked form form.mem_all slot member
  cases slot with
  | fixed text => exact List.contains_iff_mem.mp fact
  | _ => trivial

/-- What stands in a slot, and the operand that it gives if the slot fills a field. -/
inductive SlotText : Slot → Option (Operand Literal) → List Char → Prop where
  | x {number : Register} {text : List Char} : RegisterText number text →
      SlotText .x (some (.register number)) text
  | y {number : Register} {text : List Char} : RegisterText number text →
      SlotText .y (some (.register number)) text
  | digit {literal : Literal} : literal.Valid →
      SlotText .digit (some (.number literal)) literal.text
  | byte {literal : Literal} : literal.Valid →
      SlotText .byte (some (.number literal)) literal.text
  | address {operand : Operand Literal} {text : List Char} : AddressText operand text →
      SlotText .address (some operand) text
  | fixed {text : String} : text ∈ fixedTexts → SlotText (.fixed text) none text.toList

/-! ## Statements -/

/-- Further operands in a row of slots, each behind a comma. -/
inductive OperandsText : List Slot → List (Operand Literal) → List Char → Prop where
  | nil : OperandsText [] [] []
  | cons {slot : Slot} {slots : List Slot} {operand : Option (Operand Literal)}
      {operands : List (Operand Literal)} {before behind text rest : List Char} :
      Blanks before → Blanks behind → SlotText slot operand text →
      OperandsText slots operands rest →
      OperandsText (slot :: slots) (operand.toList ++ operands)
        (before ++ ',' :: (behind ++ (text ++ rest)))

/-- What follows a mnemonic: nothing if there is no slot, else a blank and the operands. -/
inductive FormText : List Slot → List (Operand Literal) → List Char → Prop where
  | plain : FormText [] [] []
  | operands {slot : Slot} {slots : List Slot} {operand : Option (Operand Literal)}
      {operands : List (Operand Literal)} {gap text rest : List Char} :
      Blanks gap → gap ≠ [] → SlotText slot operand text → OperandsText slots operands rest →
      FormText (slot :: slots) (operand.toList ++ operands) (gap ++ (text ++ rest))

/-- Further numbers, each behind a comma. -/
inductive NumbersText : List Literal → List Char → Prop where
  | nil : NumbersText [] []
  | cons {literal : Literal} {literals : List Literal} {before behind rest : List Char} :
      Blanks before → Blanks behind → literal.Valid → NumbersText literals rest →
      NumbersText (literal :: literals) (before ++ ',' :: (behind ++ (literal.text ++ rest)))

/-- A statement, from its first character to its last. -/
inductive StatementText : Statement Literal → List Char → Prop where
  | label {name : String} {gap : List Char} : IsName name → Blanks gap →
      StatementText (.label name) (name.toList ++ (gap ++ [':']))
  | instruction {form : Form} {operands : List (Operand Literal)} {text : List Char} :
      FormText form.slots operands text →
      StatementText (.instruction form operands) (form.mnemonic.toList ++ text)
  | bytes {literal : Literal} {literals : List Literal} {gap rest : List Char} :
      Blanks gap → gap ≠ [] → literal.Valid → NumbersText literals rest →
      StatementText (.bytes (literal :: literals)) ("DB".toList ++ (gap ++ (literal.text ++ rest)))
  | word {operand : Operand Literal} {gap text : List Char} :
      Blanks gap → gap ≠ [] → AddressText operand text →
      StatementText (.word operand) ("DW".toList ++ (gap ++ text))

/-- Blanks and comments, each comment up to the end of its line. -/
inductive GapText : List Char → Prop where
  | nil : GapText []
  | blank {c : Char} {rest : List Char} : isSpace c → GapText rest → GapText (c :: rest)
  | comment {text rest : List Char} : '\n' ∉ text → GapText rest →
      GapText ('/' :: '/' :: (text ++ '\n' :: rest))

/-- Further statements, each behind a gap, and a gap at the end. -/
inductive StatementsText : List (Statement Literal) → List Char → Prop where
  | done {gap : List Char} : GapText gap → StatementsText [] gap
  | next {statement : Statement Literal} {statements : List (Statement Literal)}
      {gap text rest : List Char} :
      GapText gap → gap ≠ [] → StatementText statement text → StatementsText statements rest →
      StatementsText (statement :: statements) (gap ++ (text ++ rest))

/-- A whole source. There need not be a gap in front of the first statement. -/
inductive ProgramText : List (Statement Literal) → List Char → Prop where
  | empty {gap : List Char} : GapText gap → ProgramText [] gap
  | start {statement : Statement Literal} {statements : List (Statement Literal)}
      {gap text rest : List Char} :
      GapText gap → StatementText statement text → StatementsText statements rest →
      ProgramText (statement :: statements) (gap ++ (text ++ rest))

/-! ## Spelled statements are proper -/

theorem AddressText.admits {operand : Operand Literal} {text : List Char}
    (spelled : AddressText operand text) : Slot.address.Admits Literal.Valid operand := by
  cases spelled with
  | number valid => exact .address valid
  | reference target =>
    cases target with
    | near name => exact .reference (.near name)
    | far scope name => exact .reference (.far scope name)

/-- What is spelled for a slot fits in front of the operands that follow. -/
theorem SlotText.fit {slot : Slot} {slots : List Slot} {operand : Option (Operand Literal)}
    {operands : List (Operand Literal)} {text : List Char} (spelled : SlotText slot operand text)
    (fit : Fit Literal.Valid slots operands) :
    Fit Literal.Valid (slot :: slots) (operand.toList ++ operands) := by
  cases spelled with
  | x => exact .field (.x _) fit
  | y => exact .field (.y _) fit
  | digit valid => exact .field (.digit valid) fit
  | byte valid => exact .field (.byte valid) fit
  | address address => exact .field address.admits fit
  | fixed => exact .fixed fit

theorem OperandsText.fit {slots : List Slot} {operands : List (Operand Literal)} {text : List Char}
    (spelled : OperandsText slots operands text) : Fit Literal.Valid slots operands := by
  induction spelled with
  | nil => exact .nil
  | cons _ _ operand _ ih => exact operand.fit ih

theorem FormText.fit {slots : List Slot} {operands : List (Operand Literal)} {text : List Char}
    (spelled : FormText slots operands text) : Fit Literal.Valid slots operands := by
  cases spelled with
  | plain => exact .nil
  | operands _ _ operand others => exact operand.fit others.fit

theorem NumbersText.valid {literals : List Literal} {text : List Char}
    (spelled : NumbersText literals text) : ∀ literal ∈ literals, literal.Valid := by
  induction spelled with
  | nil => simp
  | cons _ _ valid _ ih =>
    intro literal member
    rcases List.mem_cons.mp member with rfl | later
    · exact valid
    · exact ih literal later

/-- A statement that is written down is one as sources can contain it. -/
theorem StatementText.proper {statement : Statement Literal} {text : List Char}
    (spelled : StatementText statement text) : statement.Proper Literal.Valid := by
  cases spelled with
  | label valid => exact .label valid
  | instruction operands => exact .instruction operands.fit
  | bytes _ _ valid others =>
    refine .bytes (List.cons_ne_nil _ _) ?_
    intro literal member
    rcases List.mem_cons.mp member with rfl | later
    · exact valid
    · exact others.valid literal later
  | word _ _ address => exact .word address.admits

/-! ## Statements that can be written down -/

/-- A statement that can be written down and read: one as sources can contain it, but not the rest
of a line that is no statement, without decimal numbers that are too long. -/
structure Statement.Printable (statement : Statement Literal) : Prop where
  proper : statement.Proper Literal.Valid
  known : ∀ text, statement ≠ .unknown text
  short : ∀ literal ∈ statement.numbers, literal.Short

theorem blanks_space : Blanks [' '] := .cons rfl .nil

theorem exists_registerText (number : Register) : ∃ text, RegisterText number text := by
  have checked : ∀ value < 16, isHexDigit (Nat.digitChar value) ∧
      Cursor.hexDigitValue (Nat.digitChar value) = value := by
    decide +kernel
  obtain ⟨isDigit, value⟩ := checked number.val number.isLt
  have same : Register.ofNumber (Cursor.hexDigitValue (Nat.digitChar number.val)) = number := by
    rw [value]
    exact Fin.ext (Nat.mod_eq_of_lt number.isLt)
  rw [← same]
  exact ⟨_, .mk (.inl rfl) isDigit⟩

theorem Slot.Admits.exists_text {slot : Slot} {operand : Operand Literal}
    (admits : slot.Admits Literal.Valid operand) : ∃ text, SlotText slot (some operand) text := by
  cases admits with
  | x number =>
    obtain ⟨text, spelled⟩ := exists_registerText number
    exact ⟨text, .x spelled⟩
  | y number =>
    obtain ⟨text, spelled⟩ := exists_registerText number
    exact ⟨text, .y spelled⟩
  | digit valid => exact ⟨_, .digit valid⟩
  | byte valid => exact ⟨_, .byte valid⟩
  | address valid => exact ⟨_, .address (.number valid)⟩
  | reference named =>
    cases named with
    | near name => exact ⟨_, .address (.reference (.near name .nil))⟩
    | far scope name => exact ⟨_, .address (.reference (.far scope name .nil .nil .nil))⟩

/-- Operands that fit a row of slots can be written down behind a mnemonic, and behind a comma. -/
theorem Fit.exists_text {slots : List Slot} {operands : List (Operand Literal)}
    (fit : Fit Literal.Valid slots operands) (known : ∀ slot ∈ slots, slot.Known) :
    (∃ text, FormText slots operands text) ∧ ∃ text, OperandsText slots operands text := by
  induction fit with
  | nil => exact ⟨⟨_, .plain⟩, ⟨_, .nil⟩⟩
  | fixed _ ih =>
    obtain ⟨_, _, others⟩ := ih fun slot member => known slot (List.mem_cons_of_mem _ member)
    have here := SlotText.fixed (known (.fixed _) (List.mem_cons_self ..))
    exact ⟨⟨_, .operands blanks_space (List.cons_ne_nil _ _) here others⟩,
      ⟨_, .cons .nil .nil here others⟩⟩
  | field admits _ ih =>
    obtain ⟨_, _, others⟩ := ih fun slot member => known slot (List.mem_cons_of_mem _ member)
    obtain ⟨_, here⟩ := admits.exists_text
    exact ⟨⟨_, .operands blanks_space (List.cons_ne_nil _ _) here others⟩,
      ⟨_, .cons .nil .nil here others⟩⟩

theorem exists_numbersText {literals : List Literal} (valid : ∀ literal ∈ literals, literal.Valid) :
    ∃ text, NumbersText literals text := by
  induction literals with
  | nil => exact ⟨_, .nil⟩
  | cons literal literals ih =>
    obtain ⟨_, others⟩ := ih fun other member => valid other (List.mem_cons_of_mem _ member)
    exact ⟨_, .cons .nil .nil (valid literal (List.mem_cons_self ..)) others⟩

theorem Statement.Printable.exists_text {statement : Statement Literal}
    (printable : statement.Printable) : ∃ text, StatementText statement text := by
  cases printable.proper with
  | label name => exact ⟨_, .label name .nil⟩
  | @instruction form operands fit =>
    obtain ⟨⟨_, spelled⟩, _⟩ := fit.exists_text form.slots_known
    exact ⟨_, .instruction spelled⟩
  | @bytes values filled valid =>
    cases values with
    | nil => contradiction
    | cons literal literals =>
      have here : literal.Valid := valid literal (List.mem_cons_self ..)
      obtain ⟨_, others⟩ := exists_numbersText fun other member =>
        valid other (List.mem_cons_of_mem _ member)
      exact ⟨_, .bytes blanks_space (List.cons_ne_nil _ _) here others⟩
  | word admits =>
    obtain ⟨_, spelled⟩ := admits.exists_text
    cases spelled with
    | address spelled => exact ⟨_, .word blanks_space (List.cons_ne_nil _ _) spelled⟩
  | unknown text => exact absurd rfl (printable.known text)

/-- Every list of printable statements can be written down. -/
theorem exists_programText {written : List (Statement Literal)}
    (printable : ∀ statement ∈ written, statement.Printable) :
    ∃ text, ProgramText written text := by
  have behind {others : List (Statement Literal)}
      (printable : ∀ statement ∈ others, statement.Printable) :
      ∃ text, StatementsText others text := by
    induction others with
    | nil => exact ⟨_, .done .nil⟩
    | cons statement others ih =>
      obtain ⟨_, here⟩ := (printable statement (List.mem_cons_self ..)).exists_text
      obtain ⟨_, later⟩ := ih fun other member => printable other (List.mem_cons_of_mem _ member)
      exact ⟨_, .next (.blank rfl .nil) (List.cons_ne_nil ' ' []) here later⟩
  cases written with
  | nil => exact ⟨_, .empty .nil⟩
  | cons statement others =>
    obtain ⟨_, here⟩ := (printable statement (List.mem_cons_self ..)).exists_text
    obtain ⟨_, later⟩ := behind fun other member => printable other (List.mem_cons_of_mem _ member)
    exact ⟨_, .start .nil here later⟩

end Chip8.Assembly
