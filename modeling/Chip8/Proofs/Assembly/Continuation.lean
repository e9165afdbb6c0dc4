import Chip8.Proofs.Assembly.Lookahead
import Chip8.Proofs.Assembly.Printing

/-! # Statements in front of a further text

Among the forms of instructions the one that reads furthest is chosen. A further text behind the
source changes neither which forms can be read nor how far they go, since behind a whole statement
there is no comma that could lead to another operand. So each statement and comment is read the same
with the further text behind (`Cursor.next?_followed`).
-/

namespace Chip8.Assembly.Cursor

variable {tail : List Char} {cursor behind : Cursor}

/-! ## Keywords -/

theorem isName_DB : IsName "DB" := ⟨⟨'D', ['B'], rfl, rfl⟩, List.all_eq_true.mp rfl⟩

theorem isName_DW : IsName "DW" := ⟨⟨'D', ['W'], rfl, rfl⟩, List.all_eq_true.mp rfl⟩

theorem keyword?_of_instruction? {reading : Statement (List Char) × Cursor}
    (found : cursor.instruction? = some reading) :
    ∃ (form : Form) (start : Cursor), cursor.keyword? form.mnemonic = some start := by
  obtain ⟨form, _, read⟩ := List.mem_filterMap.mp (furthest?_mem found)
  simp only [form?, Option.bind_eq_bind, Option.bind_eq_some_iff] at read
  obtain ⟨start, keyword, _⟩ := read
  exact ⟨form, start, keyword⟩

theorem keyword?_of_bytes? {reading : Statement (List Char) × Cursor}
    (found : cursor.bytes? = some reading) : ∃ start, cursor.keyword? "DB" = some start := by
  simp only [bytes?, Option.bind_eq_bind, Option.bind_eq_some_iff] at found
  obtain ⟨start, keyword, _⟩ := found
  exact ⟨start, keyword⟩

theorem keyword?_of_word? {reading : Statement (List Char) × Cursor}
    (found : cursor.word? = some reading) : ∃ start, cursor.keyword? "DW" = some start := by
  simp only [word?, Option.bind_eq_bind, Option.bind_eq_some_iff] at found
  obtain ⟨start, keyword, _⟩ := found
  exact ⟨start, keyword⟩

theorem keyword?_visible {word : String} (solid : Solid word.toList)
    (found : cursor.keyword? word = some behind) : cursor.Visible := by
  obtain ⟨c, more, shape, _⟩ := solid
  intro empty
  rw [(keyword?_rest found).1, shape] at empty
  contradiction

theorem next?_skipSpace (cursor : Cursor) : cursor.skipSpace.next? = cursor.next? := by
  rw [next?, next?, skipSpace_skipSpace]

theorem visible_of_next? {reading : Option (Statement (List Char)) × Cursor}
    (found : cursor.next? = some reading) : cursor.Visible := by
  intro empty
  rw [← next?_skipSpace] at found
  have := next?_remaining_lt found
  rw [remaining, remaining, empty] at this
  contradiction

/-- Where one keyword stands no other one does. -/
theorem keyword?_eq_none_of_other {word other : String} (valid : IsName word)
    (otherValid : IsName other) (different : other ≠ word)
    (found : cursor.keyword? word = some behind) : cursor.keyword? other = none := by
  obtain ⟨shape, stops⟩ := keyword?_rest found
  have start : cursor.skipSpace = ⟨cursor.skipSpace.before, word.toList ++ behind.rest⟩ := by
    rw [← shape]
  have again : cursor.keyword? other = cursor.skipSpace.keyword? other := by
    rw [keyword?, keyword?, skipSpace_skipSpace]
  cases read : cursor.keyword? other with
  | none => rfl
  | some place =>
    rw [again, start] at read
    exact absurd (keyword?_unique valid.solid
      (fun c member => joinsKeyword_of_isNameChar (valid.all c member))
      (fun c member => joinsKeyword_of_isNameChar (otherValid.all c member)) stops read) different

theorem instruction?_eq_none_of_keyword {word : String} (valid : IsName word)
    (different : ∀ form : Form, form.mnemonic ≠ word)
    (found : cursor.keyword? word = some behind) : cursor.instruction? = none := by
  apply Option.eq_none_iff_forall_ne_some.mpr
  intro reading read
  obtain ⟨form, start, keyword⟩ := keyword?_of_instruction? read
  rw [keyword?_eq_none_of_other valid form.mnemonic_isName (different form) found] at keyword
  contradiction

/-- Where a row of bytes is read there is no instruction. -/
theorem instruction?_eq_none_of_bytes {reading : Statement (List Char) × Cursor}
    (found : cursor.bytes? = some reading) : cursor.instruction? = none := by
  obtain ⟨start, keyword⟩ := keyword?_of_bytes? found
  exact instruction?_eq_none_of_keyword isName_DB (fun form => by cases form <;> decide) keyword

/-- Where a word is read there is neither an instruction nor a row of bytes. -/
theorem instruction?_eq_none_of_word {reading : Statement (List Char) × Cursor}
    (found : cursor.word? = some reading) : cursor.instruction? = none ∧ cursor.bytes? = none := by
  obtain ⟨start, keyword⟩ := keyword?_of_word? found
  constructor
  · exact instruction?_eq_none_of_keyword isName_DW (fun form => by cases form <;> decide) keyword
  · rw [bytes?, keyword?_eq_none_of_other isName_DW isName_DB (by decide) keyword]
    rfl

theorem length_moreNumerals_le (count : Nat) (cursor : Cursor) :
    (moreNumerals count cursor).1.length ≤ count := by
  induction count generalizing cursor with
  | zero => exact Nat.le_refl _
  | succ count ih =>
    rw [moreNumerals]
    split
    · exact Nat.zero_le _
    · exact Nat.succ_le_succ (ih _)

/-- The reading that goes furthest goes furthest with a further text behind. -/
theorem furthest?_map {α : Type} (tail : List Char) (readings : List (α × Cursor)) :
    furthest? (readings.map (readOn tail)) = (furthest? readings).map (readOn tail) := by
  have remaining (cursor : Cursor) :
      (cursor.followedBy tail).remaining = cursor.remaining + tail.length := by
    simp [Cursor.remaining, followedBy]
  induction readings with
  | nil => rfl
  | cons reading others ih =>
    rw [List.map_cons, furthest?, furthest?, ih]
    cases furthest? others with
    | none => rfl
    | some other =>
      dsimp only [Option.map_some]
      simp only [readOn, remaining, Nat.add_le_add_iff_right]
      split_ifs <;> rfl

section statements

variable (fresh : FreshLine tail)

include fresh

/-! ## Instructions -/

/-- At a place where a form is read and no comma comes behind it, every form is read the same with a
further text behind, if it is read at all. -/
theorem form?_followed {form : Form} {statement : Statement (List Char)}
    (found : cursor.form? form = some (statement, behind))
    (finished : firstVisible behind.rest ≠ some ',') (other : Form) :
    (cursor.followedBy tail).form? other = (cursor.form? other).map (readOn tail) := by
  simp only [form?, Option.bind_eq_bind, Option.bind_eq_some_iff, Prod.exists] at found
  obtain ⟨start, keyword, operands, place, read, same⟩ := found
  cases same
  have visible := keyword?_visible form.mnemonic_solid keyword
  rw [form?, form?, keyword?_followed fresh other.mnemonic_isName.oneLine visible]
  by_cases same : other.mnemonic = form.mnemonic
  · have operands : (start.followedBy tail).operands? true other.slots =
        (start.operands? true other.slots).map (readOn tail) := by
      by_cases equal : other = form
      · rw [equal, read]
        exact operands?_followed fresh form.slots_known read
      · obtain ⟨filled, _, early⟩ := Form.stopsEarly same equal
        exact operands?_other_followed fresh form.slots_known other.slots_known early
          (fun empty => absurd empty filled) read finished
    rw [same, keyword]
    simp only [Option.map_some, Option.bind_eq_bind, Option.bind_some, operands]
    cases start.operands? true other.slots <;> rfl
  · rw [keyword?_eq_none_of_other form.mnemonic_isName other.mnemonic_isName same keyword]
    rfl

theorem instruction?_followed {statement : Statement (List Char)}
    (found : cursor.instruction? = some (statement, behind))
    (finished : firstVisible behind.rest ≠ some ',') :
    (cursor.followedBy tail).instruction? = some (statement, behind.followedBy tail) := by
  obtain ⟨form, _, read⟩ := List.mem_filterMap.mp (furthest?_mem found)
  have forms : (cursor.followedBy tail).form? =
      fun other => (cursor.form? other).map (readOn tail) :=
    funext (form?_followed fresh read finished)
  rw [instruction?, forms, ← List.map_filterMap, furthest?_map]
  exact congrArg (Option.map (readOn tail)) found

theorem label?_followed (visible : cursor.Visible) :
    (cursor.followedBy tail).label? = (cursor.label?).map (readOn tail) := by
  rw [label?, label?, name?_followed fresh visible]
  cases cursor.name? with
  | none => rfl
  | some reading =>
    obtain ⟨name, place⟩ := reading
    have colon := symbol?_followed fresh ":" rfl (by decide) (by decide) place
    simp only [Option.map_some, readOn, Option.bind_eq_bind, Option.bind_some, colon]
    cases place.symbol? ":" <;> rfl

/-! ## Rows of bytes and words -/

theorem nextNumeral?_followed {text : List Char}
    (found : cursor.nextNumeral? = some (text, behind)) :
    (cursor.followedBy tail).nextNumeral? = some (text, behind.followedBy tail) := by
  simp only [nextNumeral?, Option.bind_eq_bind, Option.bind_eq_some_iff] at found
  obtain ⟨start, comma, numeral⟩ := found
  simp only [nextNumeral?, comma_followed fresh, comma, Option.map_some, Option.bind_eq_bind,
    Option.bind_some]
  exact numeral?_followed_of_some fresh numeral

/-- Numbers behind commas are read on with every bound that leaves room for them. -/
theorem moreNumerals_followed {count : Nat}
    (finished : firstVisible (moreNumerals count cursor).2.rest ≠ some ',') {bound : Nat}
    (enough : (moreNumerals count cursor).1.length ≤ bound) :
    moreNumerals bound (cursor.followedBy tail) = readOn tail (moreNumerals count cursor) := by
  have stops {cursor : Cursor} (noComma : firstVisible cursor.rest ≠ some ',') (bound : Nat) :
      moreNumerals bound (cursor.followedBy tail) = ([], cursor.followedBy tail) := by
    cases bound with
    | zero => rfl
    | succ bound =>
      rw [moreNumerals, nextNumeral?, comma_followed fresh, symbol?_eq_none rfl noComma]
      rfl
  induction count generalizing cursor bound with
  | zero => exact stops finished bound
  | succ count ih =>
    rw [moreNumerals] at finished enough ⊢
    cases next : cursor.nextNumeral? with
    | none =>
      rw [next] at finished
      exact stops finished bound
    | some reading =>
      obtain ⟨text, place⟩ := reading
      rw [next] at finished enough
      cases bound with
      | zero => contradiction
      | succ bound =>
        rw [moreNumerals, nextNumeral?_followed fresh next]
        dsimp only
        rw [ih finished (Nat.le_of_succ_le_succ enough)]
        rfl

theorem bytes?_followed {statement : Statement (List Char)}
    (found : cursor.bytes? = some (statement, behind))
    (finished : firstVisible behind.rest ≠ some ',') :
    (cursor.followedBy tail).bytes? = some (statement, behind.followedBy tail) := by
  simp only [bytes?, Option.bind_eq_bind, Option.bind_eq_some_iff, Prod.exists] at found
  obtain ⟨start, keyword, text, place, numeral, same⟩ := found
  cases same
  have visible := keyword?_visible isName_DB.solid keyword
  have enough : (moreNumerals place.remaining place).1.length ≤
      (place.followedBy tail).remaining := by
    have := length_moreNumerals_le place.remaining place
    simp only [Cursor.remaining, followedBy, List.length_append] at this ⊢
    omega
  simp only [bytes?, keyword?_followed fresh isName_DB.oneLine visible, keyword, Option.map_some,
    Option.bind_eq_bind, Option.bind_some, numeral?_followed_of_some fresh numeral,
    moreNumerals_followed fresh finished enough]
  rfl

theorem word?_followed {statement : Statement (List Char)}
    (found : cursor.word? = some (statement, behind)) :
    (cursor.followedBy tail).word? = some (statement, behind.followedBy tail) := by
  simp only [word?, Option.bind_eq_bind, Option.bind_eq_some_iff, Prod.exists] at found
  obtain ⟨start, keyword, operand, place, address, same⟩ := found
  cases same
  have visible := keyword?_visible isName_DW.solid keyword
  simp only [word?, keyword?_followed fresh isName_DW.oneLine visible, keyword, Option.map_some,
    Option.bind_eq_bind, Option.bind_some, address?_followed fresh address]

/-! ## Statements and comments -/

theorem comment?_followed (visible : cursor.Visible) :
    (cursor.followedBy tail).comment? = (cursor.comment?).map (·.followedBy tail) := by
  rw [comment?, comment?, symbol?_followed_of_visible fresh (by decide) visible]
  cases cursor.symbol? "//" with
  | none => rfl
  | some place =>
    have line : (place.followedBy tail).run (· != '\n') = _ := run_followed fresh (by decide) place
    rw [Option.map_some, Option.map_some, line]
    rfl

/-- A statement that is known and that no comma follows is read the same with a further text behind.
-/
theorem statement?_followed {statement : Statement (List Char)} (visible : cursor.Visible)
    (found : cursor.statement? = some (statement, behind))
    (known : ∀ text, statement ≠ .unknown text) (finished : firstVisible behind.rest ≠ some ',') :
    (cursor.followedBy tail).statement? = some (statement, behind.followedBy tail) := by
  simp only [statement?, Option.or_eq_some_iff] at found
  rw [statement?, label?_followed fresh visible]
  rcases found with label | ⟨noLabel, instruction | ⟨_, bytes | ⟨_, word | ⟨_, unknown⟩⟩⟩⟩
  · rw [label]
    rfl
  · rw [noLabel, instruction?_followed fresh instruction finished]
    rfl
  · have followed := bytes?_followed fresh bytes finished
    rw [noLabel, instruction?_eq_none_of_bytes followed, followed]
    rfl
  · have followed := word?_followed fresh word
    obtain ⟨noInstruction, noBytes⟩ := instruction?_eq_none_of_word followed
    rw [noLabel, noInstruction, noBytes, followed]
    rfl
  · simp only [unknown?] at unknown
    split_ifs at unknown
    cases unknown
    exact absurd rfl (known _)

/-- So is a comment. -/
theorem next?_followed {statement : Option (Statement (List Char))}
    (found : cursor.next? = some (statement, behind))
    (known : ∀ text, statement ≠ some (.unknown text))
    (finished : firstVisible behind.rest ≠ some ',') :
    (cursor.followedBy tail).next? = some (statement, behind.followedBy tail) := by
  have visible := visible_of_next? found
  have again : cursor.skipSpace.Visible := by
    rw [Visible, skipSpace_skipSpace]
    exact visible
  rw [next?, skipSpace_followed fresh visible]
  dsimp only
  rw [comment?_followed fresh again]
  simp only [next?] at found
  cases comment : cursor.skipSpace.comment? with
  | some place =>
    rw [comment] at found
    cases found
    rfl
  | none =>
    rw [comment] at found
    obtain ⟨⟨read, place⟩, choice, same⟩ := Option.map_eq_some_iff.mp found
    cases same
    have followed := statement?_followed fresh again choice
      (fun text same => known text (congrArg some same)) finished
    simp only [Option.map_none, followed, Option.map_some]

end statements

end Chip8.Assembly.Cursor
