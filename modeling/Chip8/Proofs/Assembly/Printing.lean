import Chip8.Assembly.Draft.Request
import Chip8.Proofs.Assembly.Forms
import Chip8.Proofs.Assembly.Spreading

/-! # Reading undoes printing

However statements are written down, with whatever blanks, comments and numerals, a source is read
as exactly these statements in their order, and each of them asks for what it stands for
(`read_printed`), although nothing but the statements themselves tells where one ends and the next
begins.
-/

namespace Chip8.Assembly

/-! ## What follows a statement -/

/-- A statement starts with a letter or a low line. -/
theorem StatementText.start {statement : Statement Literal} {text : List Char}
    (spelled : StatementText statement text) : ∃ c more, text = c :: more ∧ isNameStart c := by
  have named {name : String} (valid : IsName name) (rest : List Char) :
      ∃ c more, name.toList ++ rest = c :: more ∧ isNameStart c := by
    obtain ⟨c, more, shape, start⟩ := valid.start
    exact ⟨c, more ++ rest, by rw [shape, List.cons_append], start⟩
  cases spelled with
  | label valid => exact named valid _
  | @instruction form => exact named form.mnemonic_isName _
  | bytes => exact ⟨'D', _, rfl, rfl⟩
  | word => exact ⟨'D', _, rfl, rfl⟩

theorem StatementText.solid {statement : Statement Literal} {text : List Char}
    (spelled : StatementText statement text) : Solid text := by
  obtain ⟨c, more, shape, start⟩ := spelled.start
  exact ⟨c, more, shape, isSpace_eq_false_of_isNameChar (Cursor.isNameChar_of_isNameStart start)⟩

theorem GapText.firstVisible {gap : List Char} (spelled : GapText gap) (rest : List Char) :
    firstVisible (gap ++ rest) = some '/' ∨
      Assembly.firstVisible (gap ++ rest) = Assembly.firstVisible rest := by
  induction spelled with
  | nil => exact .inr rfl
  | @blank c gap blank _ ih =>
    have skip : Assembly.firstVisible (c :: gap ++ rest) = Assembly.firstVisible (gap ++ rest) := by
      rw [List.cons_append, Assembly.firstVisible, List.dropWhile_cons_of_pos blank]
      rfl
    rw [skip]
    exact ih
  | comment => exact .inl (firstVisible_cons rfl _)

theorem GapText.head {gap : List Char} (spelled : GapText gap) :
    ∀ c, gap.head? = some c → c ∈ delimiters := by
  intro c first
  cases spelled with
  | nil => contradiction
  | blank blank =>
    cases first
    exact mem_delimiters_of_isSpace blank
  | comment =>
    cases first
    decide

/-- Behind a statement comes a comment or a further statement first, if anything does. -/
theorem StatementsText.firstVisible {statements : List (Statement Literal)} {text : List Char}
    (spelled : StatementsText statements text) {c : Char}
    (visible : firstVisible text = some c) : c = '/' ∨ isNameStart c := by
  cases spelled with
  | done gap =>
    have either := gap.firstVisible []
    rw [List.append_nil, visible] at either
    rcases either with comment | nothing
    · exact .inl (Option.some.inj comment)
    · contradiction
  | @next statement statements gap text rest spelledGap filled spelled others =>
    obtain ⟨first, more, shape, start⟩ := spelled.start
    have either := spelledGap.firstVisible (text ++ rest)
    rw [visible, spelled.solid.firstVisible, shape, List.head?_cons] at either
    rcases either with comment | letter
    · exact .inl (Option.some.inj comment)
    · rw [Option.some.inj letter]
      exact .inr start

theorem StatementsText.finished {statements : List (Statement Literal)} {text : List Char}
    (spelled : StatementsText statements text) : Finished text := by
  have head : ∀ c, text.head? = some c → c ∈ delimiters := by
    cases spelled with
    | done gap => exact gap.head
    | next gap filled =>
      intro c first
      rw [List.head?_append_of_ne_nil _ filled] at first
      exact gap.head c first
  refine ⟨⟨head, ?_⟩, ?_⟩
  · intro visible
    rcases spelled.firstVisible visible with comment | start <;> contradiction
  · intro visible
    rcases spelled.firstVisible visible with comment | start <;> contradiction

theorem NumbersText.length_le {literals : List Literal} {text : List Char}
    (spelled : NumbersText literals text) : literals.length ≤ text.length := by
  induction spelled with
  | nil => exact Nat.le_refl _
  | cons =>
    simp only [List.length_cons, List.length_append]
    omega

theorem NumbersText.delimited {literals : List Literal} {text rest : List Char}
    (spelled : NumbersText literals text) (delimited : Delimited rest) :
    Delimited (text ++ rest) := by
  cases spelled with
  | nil => exact delimited
  | cons blanks =>
    rw [List.append_assoc]
    exact delimited_comma blanks _

namespace Cursor

variable {before : Char} {gap text rest : List Char}

/-! ## Single statements -/

/-- No label is read where a name stands and no colon behind it. -/
theorem label?_eq_none {name : String} (valid : IsName name) (delimited : Delimited rest) :
    (⟨before, name.toList ++ rest⟩ : Cursor).label? = none := by
  obtain ⟨last, named⟩ : ∃ last, (⟨before, [] ++ (name.toList ++ rest)⟩ : Cursor).name? =
      some (name, ⟨last, rest⟩) := name?_append valid .nil (delimited.stops (by decide))
  rw [List.nil_append] at named
  have noColon : (⟨last, rest⟩ : Cursor).symbol? ":" = none := symbol?_eq_none rfl delimited.noColon
  rw [label?, named]
  simp only [Option.bind_eq_bind, Option.bind_some, noColon, Option.bind_none]

theorem label?_append {name : String} (valid : IsName name) (blanks : Blanks gap) :
    ∃ last, (⟨before, name.toList ++ (gap ++ ([':'] ++ rest))⟩ : Cursor).label? =
      some (.label name, ⟨last, rest⟩) := by
  have stops : (gap ++ ([':'] ++ rest)).head?.any isNameChar = false := blanks.stops (by decide) rfl
  obtain ⟨last, named⟩ : ∃ last, (⟨before, [] ++ (name.toList ++ (gap ++ ([':'] ++ rest)))⟩ :
      Cursor).name? = some (name, ⟨last, _⟩) := name?_append valid .nil stops
  rw [List.nil_append] at named
  have colon : (⟨last, gap ++ ([':'] ++ rest)⟩ : Cursor).symbol? ":" = _ :=
    symbol?_append rfl blanks ⟨':', [], rfl, rfl⟩
  refine ⟨':', ?_⟩
  rw [label?, named]
  simp only [Option.bind_eq_bind, Option.bind_some, colon, List.getLastD_cons, List.getLastD_nil]

/-- Numbers that are written down are read up to the last. -/
theorem moreNumerals_append {literals : List Literal} (spelled : NumbersText literals text)
    (finished : Finished rest) {count : Nat} (enough : literals.length ≤ count) :
    ∃ last, moreNumerals count ⟨before, text ++ rest⟩ =
      (literals.map Literal.text, ⟨last, rest⟩) := by
  induction spelled generalizing before count with
  | nil =>
    refine ⟨before, ?_⟩
    cases count with
    | zero => rfl
    | succ count =>
      have noComma : (⟨before, rest⟩ : Cursor).symbol? "," = none :=
        symbol?_eq_none rfl finished.noComma
      rw [moreNumerals, nextNumeral?, List.nil_append, noComma]
      rfl
  | @cons literal literals front back more frontBlanks backBlanks valid others ih =>
    cases count with
    | zero => contradiction
    | succ count =>
      have shape : (front ++ ',' :: (back ++ (literal.text ++ more))) ++ rest =
          front ++ ([','] ++ (back ++ (literal.text ++ (more ++ rest)))) := by simp
      have comma : (⟨before, front ++ ([','] ++ (back ++ (literal.text ++ (more ++ rest))))⟩ :
          Cursor).symbol? "," = _ := symbol?_append rfl frontBlanks ⟨',', [], rfl, rfl⟩
      obtain ⟨middle, read⟩ : ∃ last, (⟨',', back ++ (literal.text ++ (more ++ rest))⟩ :
          Cursor).numeral? = some (literal.text, ⟨last, _⟩) :=
        numeral?_append valid backBlanks
          ((others.delimited finished.toDelimited).stops (by decide))
      obtain ⟨last, later⟩ : ∃ last, moreNumerals count ⟨middle, more ++ rest⟩ =
          (literals.map Literal.text, ⟨last, rest⟩) := ih (Nat.le_of_succ_le_succ enough)
      refine ⟨last, ?_⟩
      rw [shape, moreNumerals, nextNumeral?, comma]
      simp only [Option.bind_eq_bind, Option.bind_some, List.getLastD_cons, List.getLastD_nil, read,
        later, List.map_cons]

theorem bytes?_append {literal : Literal} {literals : List Literal} {more : List Char}
    (blanks : Blanks gap) (filled : gap ≠ []) (valid : literal.Valid)
    (others : NumbersText literals more) (finished : Finished rest)
    (apart : joinsKeyword before = false) :
    ∃ last, (⟨before, "DB".toList ++ (gap ++ (literal.text ++ (more ++ rest)))⟩ : Cursor).bytes? =
      some (.bytes ((literal :: literals).map Literal.text), ⟨last, rest⟩) := by
  have behind := others.delimited finished.toDelimited
  have stops : (gap ++ (literal.text ++ (more ++ rest))).head?.any joinsKeyword = false :=
    (delimited_of_gap blanks filled ((SlotText.byte valid).noColon _)).stops (by decide)
  obtain ⟨start, keyword⟩ : ∃ last, (⟨before, [] ++ ("DB".toList ++ (gap ++ (literal.text ++
      (more ++ rest))))⟩ : Cursor).keyword? "DB" = some ⟨last, _⟩ :=
    keyword?_append .nil ⟨'D', ['B'], rfl, rfl⟩ apart stops
  rw [List.nil_append] at keyword
  obtain ⟨middle, read⟩ : ∃ last, (⟨start, gap ++ (literal.text ++ (more ++ rest))⟩ :
      Cursor).numeral? = some (literal.text, ⟨last, _⟩) :=
    numeral?_append valid blanks (behind.stops (by decide))
  have enough : literals.length ≤ (⟨middle, more ++ rest⟩ : Cursor).remaining := by
    have := others.length_le
    simp only [remaining, List.length_append]
    omega
  obtain ⟨last, later⟩ : ∃ last, moreNumerals _ ⟨middle, more ++ rest⟩ = (_, ⟨last, rest⟩) :=
    moreNumerals_append others finished enough
  refine ⟨last, ?_⟩
  rw [bytes?, keyword]
  simp only [Option.bind_eq_bind, Option.bind_some, read, later, List.map_cons]

theorem word?_append {operand : Operand Literal} (blanks : Blanks gap) (filled : gap ≠ [])
    (address : AddressText operand text) (finished : Finished rest)
    (apart : joinsKeyword before = false) :
    ∃ last, (⟨before, "DW".toList ++ (gap ++ (text ++ rest))⟩ : Cursor).word? =
      some (.word (operand.map Literal.text), ⟨last, rest⟩) := by
  have stops : (gap ++ (text ++ rest)).head?.any joinsKeyword = false :=
    (delimited_of_gap blanks filled ((SlotText.address address).noColon _)).stops (by decide)
  obtain ⟨start, keyword⟩ : ∃ last, (⟨before, [] ++ ("DW".toList ++ (gap ++ (text ++ rest)))⟩ :
      Cursor).keyword? "DW" = some ⟨last, _⟩ :=
    keyword?_append .nil ⟨'D', ['W'], rfl, rfl⟩ apart stops
  rw [List.nil_append] at keyword
  obtain ⟨last, read⟩ : ∃ last, (⟨start, gap ++ (text ++ rest)⟩ : Cursor).address? =
      some (_, ⟨last, rest⟩) := address?_append address blanks finished.toDelimited
  refine ⟨last, ?_⟩
  rw [word?, keyword]
  simp only [Option.bind_eq_bind, Option.bind_some, read]

/-- Where another word stands no row of bytes is read. -/
theorem bytes?_eq_none {word : String} (valid : IsName word) (different : word ≠ "DB")
    (stops : rest.head?.any joinsKeyword = false) :
    (⟨before, word.toList ++ rest⟩ : Cursor).bytes? = none := by
  apply Option.eq_none_iff_forall_ne_some.mpr
  intro reading found
  simp only [bytes?, Option.bind_eq_bind, Option.bind_eq_some_iff] at found
  obtain ⟨place, keyword, _⟩ := found
  have joins : ∀ c ∈ word.toList, joinsKeyword c := fun c member =>
    joinsKeyword_of_isNameChar (valid.all c member)
  exact different (keyword?_unique valid.solid joins (List.all_eq_true.mp rfl) stops keyword).symm

/-- A statement that is written down is read. -/
theorem statement?_append {statement : Statement Literal} (spelled : StatementText statement text)
    (finished : Finished rest) (apart : joinsKeyword before = false) :
    ∃ last, (⟨before, text ++ rest⟩ : Cursor).statement? =
      some (statement.map Literal.text, ⟨last, rest⟩) := by
  cases spelled with
  | @label name gap valid blanks =>
    obtain ⟨last, read⟩ : ∃ last, (⟨before, name.toList ++ (gap ++ ([':'] ++ rest))⟩ :
        Cursor).label? = some (_, ⟨last, rest⟩) := label?_append valid blanks
    refine ⟨last, ?_⟩
    rw [List.append_assoc, List.append_assoc, statement?, read, Option.some_or]
    rfl
  | @instruction form operands text spelled =>
    have noLabel : (⟨before, form.mnemonic.toList ++ (text ++ rest)⟩ : Cursor).label? = none :=
      label?_eq_none form.mnemonic_isName (spelled.delimited finished.toDelimited)
    obtain ⟨last, read⟩ : ∃ last, (⟨before, form.mnemonic.toList ++ (text ++ rest)⟩ :
        Cursor).instruction? = some (_, ⟨last, rest⟩) := instruction?_append spelled finished apart
    refine ⟨last, ?_⟩
    rw [List.append_assoc, statement?, noLabel, read, Option.none_or, Option.some_or]
    rfl
  | @bytes literal literals gap more blanks filled valid others =>
    have name : IsName "DB" := ⟨⟨'D', ['B'], rfl, rfl⟩, List.all_eq_true.mp rfl⟩
    have noForm (form : Form) : form.mnemonic ≠ "DB" := by cases form <;> decide
    have behind : Delimited (gap ++ (literal.text ++ (more ++ rest))) :=
      delimited_of_gap blanks filled ((SlotText.byte valid).noColon _)
    obtain ⟨last, read⟩ : ∃ last, (⟨before, "DB".toList ++ (gap ++ (literal.text ++
        (more ++ rest)))⟩ : Cursor).bytes? = some (_, ⟨last, rest⟩) :=
      bytes?_append blanks filled valid others finished apart
    refine ⟨last, ?_⟩
    rw [List.append_assoc, List.append_assoc, List.append_assoc, statement?,
      label?_eq_none name behind, instruction?_eq_none name noForm (behind.stops (by decide)), read,
      Option.none_or, Option.none_or, Option.some_or]
    rfl
  | @word operand gap text blanks filled address =>
    have name : IsName "DW" := ⟨⟨'D', ['W'], rfl, rfl⟩, List.all_eq_true.mp rfl⟩
    have noForm (form : Form) : form.mnemonic ≠ "DW" := by cases form <;> decide
    have behind : Delimited (gap ++ (text ++ rest)) :=
      delimited_of_gap blanks filled ((SlotText.address address).noColon _)
    obtain ⟨last, read⟩ : ∃ last, (⟨before, "DW".toList ++ (gap ++ (text ++ rest))⟩ :
        Cursor).word? = some (_, ⟨last, rest⟩) :=
      word?_append blanks filled address finished apart
    refine ⟨last, ?_⟩
    rw [List.append_assoc, List.append_assoc, statement?, label?_eq_none name behind,
      instruction?_eq_none name noForm (behind.stops (by decide)),
      bytes?_eq_none name (by decide) (behind.stops (by decide)), read, Option.none_or,
      Option.none_or, Option.none_or, Option.some_or]
    rfl

/-! ## Runs of statements -/

theorem next?_append {statement : Statement Literal} (spelled : StatementText statement text)
    (finished : Finished rest) (apart : joinsKeyword before = false) :
    ∃ last, (⟨before, text ++ rest⟩ : Cursor).next? =
      some (some (statement.map Literal.text), ⟨last, rest⟩) := by
  have start : (⟨before, [] ++ (text ++ rest)⟩ : Cursor).skipSpace = ⟨before, text ++ rest⟩ :=
    skipSpace_append .nil spelled.solid rest
  have noComment : (⟨before, text ++ rest⟩ : Cursor).comment? = none := by
    obtain ⟨c, more, shape, letter⟩ := spelled.start
    have visible : firstVisible (text ++ rest) = some c := by
      rw [spelled.solid.firstVisible, shape, List.head?_cons]
    rw [comment?, symbol?_eq_none (c := '/') rfl ?_, Option.map_none]
    rw [visible]
    rintro ⟨⟩
    contradiction
  obtain ⟨last, read⟩ : ∃ last, (⟨before, text ++ rest⟩ : Cursor).statement? =
      some (_, ⟨last, rest⟩) := statement?_append spelled finished apart
  refine ⟨last, ?_⟩
  rw [List.nil_append] at start
  rw [next?, start]
  dsimp only
  rw [noComment, read]
  rfl

theorem next?_nil (before : Char) : (⟨before, []⟩ : Cursor).next? = none := by
  cases found : (⟨before, []⟩ : Cursor).next? with
  | none => rfl
  | some reading => exact absurd (next?_remaining_lt found) (Nat.not_lt_zero _)

/-- A blank changes nothing but the character in front of the next place. -/
theorem next?_blank {c : Char} (blank : isSpace c) :
    (⟨before, c :: rest⟩ : Cursor).next? = (⟨c, rest⟩ : Cursor).next? := by
  have same : (⟨before, c :: rest⟩ : Cursor).skipSpace = (⟨c, rest⟩ : Cursor).skipSpace := by
    rw [skipSpace, run, passWhile, if_pos blank]
    rfl
  rw [next?, next?, same]

theorem next?_comment (absent : '\n' ∉ text) :
    ∃ last, (⟨before, '/' :: '/' :: (text ++ '\n' :: rest)⟩ : Cursor).next? =
      some (none, ⟨last, '\n' :: rest⟩) := by
  have solid : Solid ['/', '/'] := ⟨'/', ['/'], rfl, rfl⟩
  have start : (⟨before, [] ++ (['/', '/'] ++ (text ++ '\n' :: rest))⟩ : Cursor).skipSpace = _ :=
    skipSpace_append .nil solid _
  have mark : (⟨before, [] ++ (['/', '/'] ++ (text ++ '\n' :: rest))⟩ : Cursor).symbol? "//" = _ :=
    symbol?_append rfl .nil solid
  have passes : ∀ c ∈ text, (c != '\n') = true := by
    intro c member
    rw [bne_iff_ne]
    rintro rfl
    exact absent member
  have line : passWhile (· != '\n') '/' (text ++ '\n' :: rest) = _ :=
    passWhile_append passes rfl '/'
  simp only [List.nil_append, List.cons_append, List.getLastD_nil, List.getLastD_cons] at start mark
  refine ⟨text.getLastD '/', ?_⟩
  rw [next?, start]
  simp only [comment?, mark, Option.map_some, run, line]

theorem statements_of_next? {cursor behind : Cursor} {statement : Option (Statement (List Char))}
    (read : cursor.next? = some (statement, behind)) :
    cursor.statements = statement.toList ++ behind.statements := by
  rw [statements]
  split
  · rename_i nothing
    rw [read] at nothing
    contradiction
  · rename_i found
    rw [read] at found
    cases found
    rfl

theorem statements_of_next?_eq_none {cursor : Cursor} (read : cursor.next? = none) :
    cursor.statements = [] := by
  rw [statements]
  split
  · rfl
  · rename_i found
    rw [read] at found
    contradiction

/-- What is read from a place on depends on what is read there first. -/
theorem statements_congr {cursor other : Cursor} (same : cursor.next? = other.next?) :
    cursor.statements = other.statements := by
  cases read : other.next? with
  | none =>
    rw [statements_of_next?_eq_none read, statements_of_next?_eq_none (same.trans read)]
  | some reading => rw [statements_of_next? read, statements_of_next? (same.trans read)]

/-- A gap is skipped. Behind it a keyword can start unless the gap is empty. -/
theorem statements_gap (spelled : GapText gap) (before : Char) (rest : List Char) :
    ∃ last, (joinsKeyword before = false ∨ gap ≠ [] → joinsKeyword last = false) ∧
      (⟨before, gap ++ rest⟩ : Cursor).statements = (⟨last, rest⟩ : Cursor).statements := by
  have skipBlank {c : Char} (blank : isSpace c) (before : Char) (rest : List Char) :
      (⟨before, c :: rest⟩ : Cursor).statements = (⟨c, rest⟩ : Cursor).statements :=
    statements_congr (next?_blank blank)
  induction spelled generalizing before with
  | nil => exact ⟨before, fun apart => apart.resolve_right (fun filled => filled rfl), rfl⟩
  | @blank c gap blank _ ih =>
    obtain ⟨last, apart, same⟩ := ih c
    refine ⟨last, fun _ => apart (.inl (joinsKeyword_eq_false_of_isSpace blank)), ?_⟩
    rw [List.cons_append, skipBlank blank, same]
  | @comment text gap absent _ ih =>
    obtain ⟨last, apart, same⟩ := ih '\n'
    obtain ⟨middle, read⟩ : ∃ last, (⟨before, '/' :: '/' :: (text ++ '\n' :: (gap ++ rest))⟩ :
        Cursor).next? = some (none, ⟨last, _⟩) := next?_comment absent
    have shape : '/' :: '/' :: (text ++ '\n' :: gap) ++ rest =
        '/' :: '/' :: (text ++ '\n' :: (gap ++ rest)) := by simp
    refine ⟨last, fun _ => apart (.inl rfl), ?_⟩
    rw [shape, statements_of_next? read, skipBlank rfl, same]
    rfl

/-- Statements that are written down are read one after another. -/
theorem statements_append {written : List (Statement Literal)}
    (spelled : StatementsText written text) (before : Char) :
    (⟨before, text⟩ : Cursor).statements = written.map (Statement.map Literal.text) := by
  induction spelled generalizing before with
  | @done gap spelled =>
    obtain ⟨last, _, same⟩ := statements_gap spelled before []
    rw [List.append_nil] at same
    rw [same, statements_of_next?_eq_none (next?_nil last)]
    rfl
  | @next statement written gap text rest spelledGap filled spelled others ih =>
    obtain ⟨middle, apart, same⟩ := statements_gap spelledGap before (text ++ rest)
    obtain ⟨last, read⟩ : ∃ last, (⟨middle, text ++ rest⟩ : Cursor).next? =
        some (_, ⟨last, rest⟩) :=
      next?_append spelled others.finished (apart (.inr filled))
    rw [same, statements_of_next? read, ih last]
    rfl

end Cursor

/-! ## Sources -/

/-- A source is read as the statements that are written down in it. -/
theorem readStatements_eq {source : String} {written : List (Statement Literal)}
    (printed : ProgramText written source.toList) :
    readStatements source = written.map (Statement.map Literal.text) := by
  have spread := printed.spread (spread_expandTabs 0 source.toList)
  rw [readStatements, Cursor.ofText]
  generalize expandTabs 0 source.toList = expanded at spread
  cases spread with
  | empty gap => exact Cursor.statements_append (.done gap) '\n'
  | @start statement written gap text rest spelledGap spelled others =>
    obtain ⟨middle, apart, same⟩ := Cursor.statements_gap spelledGap '\n' (text ++ rest)
    obtain ⟨last, read⟩ : ∃ last, (⟨middle, text ++ rest⟩ : Cursor).next? =
        some (_, ⟨last, rest⟩) :=
      Cursor.next?_append spelled others.finished (apart (.inl rfl))
    rw [same, Cursor.statements_of_next? read, Cursor.statements_append others]
    rfl

/-- The word of a form with every field zero, and for each of its fields how far it is shifted and
the largest value that fits, in the order in which operands are written. -/
def Form.layout : Form → Int × List (Int × Int)
  | .cls => (0x00E0, [])
  | .ret => (0x00EE, [])
  | .sys => (0x0000, [(0, 0xFFF)])
  | .jp => (0x1000, [(0, 0xFFF)])
  | .jpOffset => (0xB000, [(0, 0xFFF)])
  | .call => (0x2000, [(0, 0xFFF)])
  | .seByte => (0x3000, [(8, 0xF), (0, 0xFF)])
  | .seRegister => (0x5000, [(8, 0xF), (4, 0xF)])
  | .sneByte => (0x4000, [(8, 0xF), (0, 0xFF)])
  | .sneRegister => (0x9000, [(8, 0xF), (4, 0xF)])
  | .ldByte => (0x6000, [(8, 0xF), (0, 0xFF)])
  | .ldRegister => (0x8000, [(8, 0xF), (4, 0xF)])
  | .ldIndex => (0xA000, [(0, 0xFFF)])
  | .ldFromDelay => (0xF007, [(8, 0xF)])
  | .ldKey => (0xF00A, [(8, 0xF)])
  | .ldDelay => (0xF015, [(8, 0xF)])
  | .ldSound => (0xF018, [(8, 0xF)])
  | .ldGlyph => (0xF029, [(8, 0xF)])
  | .ldDecimal => (0xF033, [(8, 0xF)])
  | .ldStore => (0xF055, [(8, 0xF)])
  | .ldLoad => (0xF065, [(8, 0xF)])
  | .addByte => (0x7000, [(8, 0xF), (0, 0xFF)])
  | .addRegister => (0x8004, [(8, 0xF), (4, 0xF)])
  | .addIndex => (0xF01E, [(8, 0xF)])
  | .or => (0x8001, [(8, 0xF), (4, 0xF)])
  | .and => (0x8002, [(8, 0xF), (4, 0xF)])
  | .xor => (0x8003, [(8, 0xF), (4, 0xF)])
  | .sub => (0x8005, [(8, 0xF), (4, 0xF)])
  | .subn => (0x8007, [(8, 0xF), (4, 0xF)])
  | .shr => (0x8006, [(8, 0xF)])
  | .shrPair => (0x8006, [(8, 0xF), (4, 0xF)])
  | .shl => (0x800E, [(8, 0xF)])
  | .shlPair => (0x800E, [(8, 0xF), (4, 0xF)])
  | .rnd => (0xC000, [(8, 0xF), (0, 0xFF)])
  | .drw => (0xD000, [(8, 0xF), (4, 0xF), (0, 0xF)])
  | .skp => (0xE09E, [(8, 0xF)])
  | .sknp => (0xE0A1, [(8, 0xF)])

theorem Form.layout_eq (form : Form) :
    form.opcode = form.layout.1 ∧
      form.fields = form.layout.2.map fun (shift, limit) => ⟨shift, limit⟩ := by
  cases form <;> exact ⟨rfl, rfl⟩

/-- What a statement stands for: an instruction for the word of its form and, in order, the value of
each operand with the field that it goes into. -/
def Statement.action : Statement Literal → Request
  | .label name => .label [name]
  | .instruction form operands =>
    .instruction form.layout.1
      ((form.layout.2.map fun (shift, limit) => ⟨shift, limit⟩).zip
        (operands.map (Operand.map fun literal => literal.value)))
  | .bytes literals => .byteRow (literals.map fun literal => literal.value)
  | .word operand => .operand [operand.map fun literal => literal.value]
  | .unknown text => .unknown [text]

theorem Statement.request_map (statement : Statement Literal) :
    (statement.map fun literal => (literal.value : Int)).request = statement.action := by
  cases statement with
  | instruction form operands =>
    obtain ⟨opcode, fields⟩ := form.layout_eq
    rw [Statement.map, Statement.request, Statement.action, opcode, fields]
  | _ => rfl

/-- Printable statements can be written down, and in whatever way that is done, they are read with
their values, each as one statement of its form with an operand for every field. So every one of
them asks for what it stands for, and none is taken for a line that is unknown. -/
theorem read_printed {written : List (Statement Literal)}
    (printable : ∀ statement ∈ written, statement.Printable) :
    (∃ source : String, ProgramText written source.toList) ∧
      ∀ source : String, ProgramText written source.toList →
        read? source = some (written.map (Statement.map fun literal => (literal.value : Int))) ∧
        (read? source).map (List.map Statement.request) = some (written.map Statement.action) ∧
        (∀ tokens, Request.unknown tokens ∉ written.map Statement.action) ∧
        ∀ form operands, .instruction form operands ∈ written →
          operands.length = form.layout.2.length ∧ operands.length = form.fields.length := by
  constructor
  · obtain ⟨text, printed⟩ := exists_programText printable
    refine ⟨String.ofList text, ?_⟩
    rw [String.toList_ofList]
    exact printed
  · intro source printed
    have reads : read? source =
        some (written.map (Statement.map fun literal => (literal.value : Int))) := by
      rw [read?, readStatements_eq printed]
      apply Outcome.mapM_map_eq_some
      intro statement member
      apply Statement.mapNumbers?_map
      intro literal number
      obtain ⟨proper, _, short⟩ := printable statement member
      exact (proper.numbers literal number).numeralValue?_of_short (short literal number)
    refine ⟨reads, ?_, ?_, ?_⟩
    · rw [reads, Option.map_some, List.map_map]
      exact congrArg some (List.map_congr_left fun statement _ => statement.request_map)
    · intro tokens member
      obtain ⟨statement, among, same⟩ := List.mem_map.mp member
      cases statement with
      | unknown text => exact (printable _ among).known text rfl
      | _ => cases same
    · intro form operands member
      have length : operands.length = form.fields.length := by
        cases (printable _ member).proper with
        | instruction fit => exact fit.length
      refine ⟨?_, length⟩
      rw [length, form.layout_eq.2, List.length_map]

/-- A label that is spelled like a mnemonic, a register in capitals, tabs, a comment and a row of
bytes. -/
def laidOut : List (Statement Literal) :=
  [.label "ld",
   .instruction .ldByte [.register (.ofNumber 10), .number (.hexadecimal false ['1', 'F'])],
   .bytes [.decimal ['1'], .binary true ['1', '0']]]

theorem read_laidOut :
    read? "ld : ld\tVa ,0x1F// DB 2\n\tDB 1,0B10" =
        some [.label "ld", .instruction .ldByte [.register 10, .number 31], .bytes [1, 2]] ∧
      (read? "ld : ld\tVa ,0x1F// DB 2\n\tDB 1,0B10").map (List.map Statement.request) =
        some [.label ["ld"],
          .instruction 0x6000 [(⟨8, 0xF⟩, .register 10), (⟨0, 0xFF⟩, .number 31)],
          .byteRow [1, 2]] := by
  have name : IsName "ld" := Form.ldByte.mnemonic_isName
  have byte : (Literal.hexadecimal false ['1', 'F']).Valid := ⟨by decide, List.all_eq_true.mp rfl⟩
  have one : (Literal.decimal ['1']).Valid := ⟨by decide, List.all_eq_true.mp rfl⟩
  have two : (Literal.binary true ['1', '0']).Valid := ⟨by decide, List.all_eq_true.mp rfl⟩
  have number : RegisterText (.ofNumber (Cursor.hexDigitValue 'a')) ['V', 'a'] := .mk (.inr rfl) rfl
  have tab : Blanks ['\t'] := .cons rfl .nil
  have load : StatementText (.instruction .ldByte [.register (.ofNumber 10), .number _]) _ :=
    .instruction (.operands tab (by decide) (.x number)
      (.cons blanks_space .nil (.byte byte) .nil))
  have row : StatementText (.bytes [_, _]) _ :=
    .bytes blanks_space (by decide) one (.cons .nil .nil two .nil)
  have space : GapText [' '] := .blank rfl .nil
  have comment : GapText ('/' :: '/' :: ([' ', 'D', 'B', ' ', '2'] ++ '\n' :: ['\t'])) :=
    .comment (by decide) (.blank rfl .nil)
  have printable : ∀ statement ∈ laidOut, statement.Printable := by
    intro statement member
    simp only [laidOut, List.mem_cons, List.not_mem_nil, or_false] at member
    rcases member with rfl | rfl | rfl
    · exact ⟨.label name, by simp, by simp [Statement.numbers]⟩
    · exact ⟨load.proper, by simp, by simp [Statement.numbers, Operand.numbers, Literal.Short]⟩
    · exact ⟨row.proper, by simp, by simp [Statement.numbers, Literal.Short, Text.maxDecimalDigits]⟩
  obtain ⟨text, printed, shape⟩ : ∃ text, ProgramText laidOut text ∧
      text = "ld : ld\tVa ,0x1F// DB 2\n\tDB 1,0B10".toList :=
    ⟨_, .start .nil (.label name blanks_space) (.next space (by decide) load
      (.next comment (by decide) row (.done .nil))), by decide⟩
  rw [shape] at printed
  obtain ⟨reads, asks, _⟩ := (read_printed printable).2 _ printed
  exact ⟨reads, asks⟩

end Chip8.Assembly
