import Chip8.Assembly.Cursor.Lemmas
import Chip8.Assembly.Reader

/-! # Statements and the text that is left

What a comment or a statement is read from stands behind the blanks and in front of what is left
(`Cursor.Reads`). It has at least one character, so reading always moves on
(`Cursor.next?_remaining_lt`).
-/

namespace Chip8.Assembly

/-! ## Extents -/

/-- A text in front of another one that ends where its line ends. -/
structure EndsLine (text rest : List Char) : Prop where
  oneLine : '\n' ∉ text
  stops : rest = [] ∨ rest.head? = some '\n'

/-- What a comment or a statement is read from, with a text behind it. Comments and unknown
statements run to the ends of their lines. -/
inductive Extent (rest : List Char) : Option (Statement (List Char)) → List Char → Prop where
  | comment {text : List Char} : EndsLine text rest → Extent rest none ('/' :: '/' :: text)
  | label {name : String} {gap : List Char} : IsName name → Blanks gap →
      Extent rest (some (.label name)) (name.toList ++ (gap ++ [':']))
  | instruction (form : Form) (operands : List (Operand (List Char))) (more : List Char) :
      Extent rest (some (.instruction form operands)) (form.mnemonic.toList ++ more)
  | bytes (values : List (List Char)) (more : List Char) :
      Extent rest (some (.bytes values)) ("DB".toList ++ more)
  | word (operand : Operand (List Char)) (more : List Char) :
      Extent rest (some (.word operand)) ("DW".toList ++ more)
  | unknown {text : String} : text.toList ≠ [] → EndsLine text.toList rest →
      Extent rest (some (.unknown text)) text.toList

theorem Extent.ne_nil {rest span : List Char} {content : Option (Statement (List Char))}
    (shape : Extent rest content span) : span ≠ [] := by
  cases shape with
  | comment => exact List.cons_ne_nil _ _
  | label => simp
  | instruction form => cases form <;> simp [Form.mnemonic]
  | bytes => simp
  | word => simp
  | unknown filled => exact filled

namespace Cursor

variable {cursor behind : Cursor} {statement : Statement (List Char)}

/-! ## Operands -/

theorem reference?_suffix {target : Reference}
    (found : cursor.reference? = some (target, behind)) : behind.rest <:+ cursor.rest := by
  simp only [reference?, Option.bind_eq_bind, Option.bind_eq_some_iff, Prod.exists] at found
  obtain ⟨mark, marked, first, named, name, found⟩ := found
  have front : named.rest <:+ cursor.rest :=
    (suffix_of_rest (name?_rest name)).trans (suffix_of_rest (symbol?_rest marked))
  split at found
  · cases found
    exact front
  · rename_i colons separated
    simp only [Option.bind_eq_some_iff, Prod.exists] at found
    obtain ⟨second, last, name, found⟩ := found
    cases found
    have back : behind.rest <:+ named.rest :=
      (suffix_of_rest (name?_rest name)).trans (suffix_of_rest (symbol?_rest separated))
    exact back.trans front

theorem address?_suffix {operand : Operand (List Char)}
    (found : cursor.address? = some (operand, behind)) : behind.rest <:+ cursor.rest := by
  unfold address? at found
  split at found
  · rename_i numeral
    cases found
    exact suffix_of_rest (numeral?_rest numeral)
  · simp only [Option.map_eq_some_iff, Prod.exists] at found
    obtain ⟨target, place, reference, found⟩ := found
    cases found
    exact reference?_suffix reference

theorem operand?_suffix {slot : Slot} {operand : Option (Operand (List Char))}
    (found : cursor.operand? slot = some (operand, behind)) : behind.rest <:+ cursor.rest := by
  cases slot with
  | x | y =>
    simp only [operand?, Option.map_eq_some_iff, Prod.exists] at found
    obtain ⟨number, place, register, found⟩ := found
    cases found
    obtain ⟨letter, digit, shape⟩ := register?_rest register
    exact suffix_of_rest shape
  | digit | byte =>
    simp only [operand?, Option.map_eq_some_iff, Prod.exists] at found
    obtain ⟨text, place, numeral, found⟩ := found
    cases found
    exact suffix_of_rest (numeral?_rest numeral)
  | address =>
    simp only [operand?, Option.map_eq_some_iff, Prod.exists] at found
    obtain ⟨target, place, address, found⟩ := found
    cases found
    exact address?_suffix address
  | fixed text =>
    simp only [operand?, Option.map_eq_some_iff] at found
    obtain ⟨place, fixed, found⟩ := found
    cases found
    split at fixed
    · exact suffix_of_rest (keyword?_rest fixed).1
    · exact suffix_of_rest (symbol?_rest fixed)

theorem operands?_suffix {first : Bool} {slots : List Slot} {operands : List (Operand (List Char))}
    (found : cursor.operands? first slots = some (operands, behind)) :
    behind.rest <:+ cursor.rest := by
  induction slots generalizing cursor first operands with
  | nil =>
    cases found
    exact List.suffix_rfl
  | cons slot slots ih =>
    simp only [operands?, Option.bind_eq_bind, Option.bind_eq_some_iff, Prod.exists] at found
    obtain ⟨start, comma, operand, place, here, rest, last, others, found⟩ := found
    cases found
    have later : behind.rest <:+ start.rest := (ih others).trans (operand?_suffix here)
    cases first with
    | true =>
      simp only [separator?, if_true, Option.some.injEq] at comma
      subst comma
      exact later
    | false =>
      have marked : cursor.symbol? "," = some start := by simpa [separator?] using comma
      exact later.trans (suffix_of_rest (symbol?_rest marked))

theorem moreNumerals_suffix (count : Nat) (cursor : Cursor) :
    (moreNumerals count cursor).2.rest <:+ cursor.rest := by
  induction count generalizing cursor with
  | zero => exact List.suffix_rfl
  | succ count ih =>
    unfold moreNumerals
    split
    · exact List.suffix_rfl
    · rename_i text place next
      simp only [nextNumeral?, Option.bind_eq_bind, Option.bind_eq_some_iff] at next
      obtain ⟨start, comma, numeral⟩ := next
      have here : place.rest <:+ cursor.rest :=
        (suffix_of_rest (numeral?_rest numeral)).trans (suffix_of_rest (symbol?_rest comma))
      exact (ih place).trans here

/-! ## Statements -/

/-- The extent of a comment or of a statement stands behind the blanks, and behind it there is
another place. -/
def Reads (cursor : Cursor) (content : Option (Statement (List Char))) (behind : Cursor) : Prop :=
  ∃ span, cursor.skipSpace.rest = span ++ behind.rest ∧ Extent behind.rest content span

theorem Reads.remaining_lt {content : Option (Statement (List Char))}
    (reads : cursor.Reads content behind) : behind.remaining < cursor.remaining := by
  obtain ⟨span, shape, extent⟩ := reads
  have total := (skipSpace_suffix cursor).length_le
  have positive := List.length_pos_iff.mpr extent.ne_nil
  rw [shape, List.length_append] at total
  unfold remaining
  omega

theorem label?_reads (found : cursor.label? = some (statement, behind)) :
    cursor.Reads (some statement) behind := by
  simp only [label?, Option.bind_eq_bind, Option.bind_eq_some_iff, Prod.exists] at found
  obtain ⟨name, named, read, place, colon, found⟩ := found
  cases found
  obtain ⟨gap, blank, cut⟩ := named.exists_gap
  have mark : named.skipSpace.rest = ':' :: behind.rest := symbol?_rest colon
  refine ⟨_, ?_, .label (name?_isName read) blank⟩
  simp only [name?_rest read, cut, mark, List.append_assoc, List.singleton_append]

/-- What an end of a text leaves of it stands behind the text's first word. -/
private theorem exists_more {word : String} {start : Cursor} {text : List Char}
    (keyword : text = word.toList ++ start.rest) (later : behind.rest <:+ start.rest) :
    ∃ more, text = (word.toList ++ more) ++ behind.rest := by
  obtain ⟨more, shape⟩ := later
  exact ⟨more, by rw [keyword, ← shape, List.append_assoc]⟩

theorem form?_reads {form : Form} (found : cursor.form? form = some (statement, behind)) :
    cursor.Reads (some statement) behind := by
  simp only [form?, Option.bind_eq_bind, Option.bind_eq_some_iff, Prod.exists] at found
  obtain ⟨start, keyword, operands, place, read, found⟩ := found
  cases found
  obtain ⟨more, shape⟩ := exists_more (keyword?_rest keyword).1 (operands?_suffix read)
  exact ⟨_, shape, .instruction form operands more⟩

theorem furthest?_mem {α : Type} {readings : List (α × Cursor)} {reading : α × Cursor}
    (found : furthest? readings = some reading) : reading ∈ readings := by
  induction readings with
  | nil => simp [furthest?] at found
  | cons first others ih =>
    unfold furthest? at found
    split at found
    · cases found; simp
    · split at found
      · cases found; simp
      · cases found
        exact List.mem_cons_of_mem _ (ih ‹_›)

theorem instruction?_reads (found : cursor.instruction? = some (statement, behind)) :
    cursor.Reads (some statement) behind := by
  obtain ⟨form, _, read⟩ := List.mem_filterMap.1 (furthest?_mem found)
  exact form?_reads read

theorem bytes?_reads (found : cursor.bytes? = some (statement, behind)) :
    cursor.Reads (some statement) behind := by
  simp only [bytes?, Option.bind_eq_bind, Option.bind_eq_some_iff, Prod.exists] at found
  obtain ⟨start, keyword, text, place, numeral, found⟩ := found
  cases found
  have later := (moreNumerals_suffix place.remaining place).trans
    (suffix_of_rest (numeral?_rest numeral))
  obtain ⟨more, shape⟩ := exists_more (keyword?_rest keyword).1 later
  exact ⟨_, shape, .bytes _ more⟩

theorem word?_reads (found : cursor.word? = some (statement, behind)) :
    cursor.Reads (some statement) behind := by
  simp only [word?, Option.bind_eq_bind, Option.bind_eq_some_iff, Prod.exists] at found
  obtain ⟨start, keyword, operand, place, address, found⟩ := found
  cases found
  obtain ⟨more, shape⟩ := exists_more (keyword?_rest keyword).1 (address?_suffix address)
  exact ⟨_, shape, .word operand more⟩

theorem endsLine_run (cursor : Cursor) :
    EndsLine (cursor.run (· != '\n')).1 (cursor.run (· != '\n')).2.rest := by
  have stops := passWhile_head? (· != '\n') cursor.before cursor.rest
  have inside := passWhile_all (· != '\n') cursor.before cursor.rest
  rw [← run] at stops inside
  refine ⟨fun lineFeed => by simpa using inside '\n' lineFeed, ?_⟩
  cases shape : (cursor.run (· != '\n')).2.rest with
  | nil => exact .inl rfl
  | cons c rest =>
    have same : c = '\n' := by simpa [shape] using stops
    exact .inr (by rw [same, List.head?_cons])

theorem comment?_reads (found : cursor.comment? = some behind) : cursor.Reads none behind := by
  obtain ⟨start, mark, rfl⟩ := Option.map_eq_some_iff.mp found
  refine ⟨_, ?_, .comment (endsLine_run start)⟩
  rw [symbol?_rest mark, List.cons_append, List.cons_append, run_cut]
  rfl

theorem unknown?_reads (found : cursor.unknown? = some (statement, behind)) :
    cursor.Reads (some statement) behind := by
  simp only [unknown?] at found
  split at found
  · contradiction
  · rename_i filled
    cases found
    have ends := endsLine_run cursor.skipSpace
    have cut := run_cut cursor.skipSpace (· != '\n')
    rw [← String.toList_ofList (l := (cursor.skipSpace.run (· != '\n')).1)] at ends cut
    refine ⟨_, cut.symm, .unknown ?_ ends⟩
    -- The first character is no blank, so the line does not end in front of it.
    cases shape : cursor.skipSpace.rest with
    | nil => simp [shape] at filled
    | cons c rest =>
      have visible : isSpace c = false := by simpa [shape] using cursor.skipSpace_stops
      have inside : (c != '\n') = true := by
        rw [bne_iff_ne]
        rintro rfl
        contradiction
      rw [String.toList_ofList, run, shape, passWhile, if_pos inside]
      exact List.cons_ne_nil _ _

theorem statement?_reads (found : cursor.statement? = some (statement, behind)) :
    cursor.Reads (some statement) behind := by
  simp only [statement?, Option.or_eq_some_iff] at found
  rcases found with label | ⟨_, instruction | ⟨_, bytes | ⟨_, word | ⟨_, unknown⟩⟩⟩⟩
  · exact label?_reads label
  · exact instruction?_reads instruction
  · exact bytes?_reads bytes
  · exact word?_reads word
  · exact unknown?_reads unknown

theorem next?_reads {content : Option (Statement (List Char))}
    (found : cursor.next? = some (content, behind)) : cursor.Reads content behind := by
  simp only [next?] at found
  rw [Reads, ← skipSpace_skipSpace]
  split at found
  · rename_i comment
    cases found
    exact comment?_reads comment
  · obtain ⟨⟨read, place⟩, choice, found⟩ := Option.map_eq_some_iff.mp found
    cases found
    exact statement?_reads choice

/-- Reading a statement or a comment moves on. -/
theorem next?_remaining_lt {content : Option (Statement (List Char))}
    (found : cursor.next? = some (content, behind)) : behind.remaining < cursor.remaining :=
  (next?_reads found).remaining_lt

end Cursor

end Chip8.Assembly
