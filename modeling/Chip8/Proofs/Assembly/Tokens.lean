import Chip8.Proofs.Assembly.Evaluation
import Chip8.Proofs.Assembly.Spelling

/-! # Reading tokens that are written down

Each reader of tokens reads what is spelled for it and stops behind it, provided that what follows
does not continue the token. Which token can be read at a place is decided by the first character
there that is no blank (`firstVisible`).
-/

namespace Chip8.Assembly

/-- The first character of a text that is no blank. -/
def firstVisible (text : List Char) : Option Char := (text.dropWhile isSpace).head?

theorem firstVisible_append {gap : List Char} (blanks : Blanks gap) (rest : List Char) :
    firstVisible (gap ++ rest) = firstVisible rest := by
  rw [firstVisible, List.dropWhile_append_of_pos blanks, firstVisible]

theorem firstVisible_cons {c : Char} (visible : isSpace c = false) (rest : List Char) :
    firstVisible (c :: rest) = some c := by
  rw [firstVisible, List.dropWhile_cons_of_neg (by simp [visible]), List.head?_cons]

/-- A text that starts with a character that is no blank. -/
def Solid (text : List Char) : Prop := ∃ c more, text = c :: more ∧ isSpace c = false

theorem Solid.firstVisible {text : List Char} (solid : Solid text) (rest : List Char) :
    firstVisible (text ++ rest) = text.head? := by
  obtain ⟨c, more, rfl, visible⟩ := solid
  exact firstVisible_cons visible (more ++ rest)

theorem isNameChar_of_isHexDigit {c : Char} (digit : isHexDigit c) : isNameChar c := by
  have checked : ∀ code < 128, isHexDigit (Char.ofNat code) → isNameChar (Char.ofNat code) := by
    decide +kernel
  have fact := checked c.toNat (isHexDigit_small digit)
  rw [Char.ofNat_toNat] at fact
  exact fact digit

theorem isSpace_eq_false_of_isNameChar {c : Char} (char : isNameChar c) : isSpace c = false := by
  cases blank : isSpace c with
  | false => rfl
  | true =>
    simp only [isSpace, Bool.or_eq_true, beq_iff_eq] at blank
    rcases blank with ((rfl | rfl) | rfl) | rfl <;> contradiction

theorem solid_of_head? {text : List Char} (visible : text.head?.any fun c => !isSpace c) :
    Solid text := by
  cases text with
  | nil => contradiction
  | cons c more => exact ⟨c, more, rfl, by simpa using visible⟩

theorem IsName.solid {name : String} (valid : IsName name) : Solid name.toList := by
  obtain ⟨first, more, shape, start⟩ := valid.start
  have character := Cursor.isNameChar_of_isNameStart start
  exact ⟨first, more, shape, isSpace_eq_false_of_isNameChar character⟩

theorem Literal.Valid.solid {literal : Literal} (valid : literal.Valid) : Solid literal.text := by
  cases literal with
  | hexadecimal => exact ⟨_, _, rfl, rfl⟩
  | binary => exact ⟨_, _, rfl, rfl⟩
  | decimal digits =>
    obtain ⟨c, more, rfl⟩ := List.exists_cons_of_ne_nil valid.filled
    have digit : c.isDigit := valid.digit c (List.mem_cons_self ..)
    exact ⟨c, more, rfl, isSpace_eq_false_of_isNameChar
      (isNameChar_of_isHexDigit (isHexDigit_of_isDigit digit))⟩

theorem RegisterText.solid {number : Register} {text : List Char}
    (spelled : RegisterText number text) : Solid text := by
  cases spelled with
  | mk letter _ => rcases letter with rfl | rfl <;> exact ⟨_, _, rfl, rfl⟩

/-- The characters that may follow an operand. -/
def delimiters : List Char := [' ', '\n', '\r', '\t', ',', '/']

theorem mem_delimiters_of_isSpace {c : Char} (blank : isSpace c) : c ∈ delimiters := by
  simp only [isSpace, Bool.or_eq_true, beq_iff_eq] at blank
  rcases blank with ((rfl | rfl) | rfl) | rfl <;> decide

theorem delimiters_apart {test : Char → Bool} (apart : delimiters.all fun c => !test c) {c : Char}
    (member : c ∈ delimiters) : test c = false := by
  simpa using List.all_eq_true.mp apart c member

/-- What may follow an operand: it does not continue the operand or turn it into a name of a module.
-/
structure Delimited (rest : List Char) : Prop where
  head : ∀ c, rest.head? = some c → c ∈ delimiters
  noColon : firstVisible rest ≠ some ':'

/-- Nothing that follows an operand belongs to a class without delimiters. -/
theorem Delimited.stops {rest : List Char} (delimited : Delimited rest) {test : Char → Bool}
    (apart : delimiters.all fun c => !test c) : rest.head?.any test = false := by
  cases first : rest.head? with
  | none => rfl
  | some c => exact delimiters_apart apart (delimited.head c first)

/-- What is no member of a class is no member of a smaller one. -/
theorem stops_of_imp {rest : List Char} {test smaller : Char → Bool}
    (stops : rest.head?.any test = false) (inside : ∀ c, smaller c → test c) :
    rest.head?.any smaller = false := by
  cases first : rest.head? with
  | none => rfl
  | some c =>
    rw [first] at stops
    apply Bool.eq_false_iff.mpr
    intro here
    exact absurd (inside c here) (Bool.eq_false_iff.mp stops)

namespace Cursor

variable {before : Char} {gap text rest : List Char}

theorem passWhile_append {test : Char → Bool} (passes : ∀ c ∈ text, test c)
    (stops : rest.head?.any test = false) (before : Char) :
    passWhile test before (text ++ rest) = (text, ⟨text.getLastD before, rest⟩) := by
  induction text generalizing before with
  | nil =>
    apply passWhile_of_head?
    cases rest with
    | nil => rfl
    | cons c rest => simpa using stops
  | cons c text ih =>
    have here : test c = true := passes c (List.mem_cons_self ..)
    have later := ih (fun other member => passes other (List.mem_cons_of_mem _ member)) c
    rw [List.cons_append, passWhile, if_pos here, later, List.getLastD_cons]

theorem passWhile_rest (test : Char → Bool) (before : Char) (text : List Char) :
    (passWhile test before text).2.rest = text.dropWhile test := by
  induction text generalizing before with
  | nil => rfl
  | cons c rest ih =>
    rw [passWhile, List.dropWhile_cons]
    split
    · exact ih c
    · rfl

theorem skipSpace_head? (cursor : Cursor) :
    cursor.skipSpace.rest.head? = firstVisible cursor.rest := by
  rw [skipSpace, run, passWhile_rest, firstVisible]

theorem skipSpace_append (blanks : Blanks gap) (solid : Solid text) (rest : List Char) :
    (⟨before, gap ++ (text ++ rest)⟩ : Cursor).skipSpace = ⟨gap.getLastD before, text ++ rest⟩ := by
  obtain ⟨c, more, rfl, visible⟩ := solid
  rw [skipSpace, run, passWhile_append blanks (by simp [visible])]

/-! ## Marks and keywords -/

theorem exactly?_append (before : Char) (text rest : List Char) :
    (⟨before, text ++ rest⟩ : Cursor).exactly? text = some ⟨text.getLastD before, rest⟩ := by
  induction text generalizing before with
  | nil => rfl
  | cons c text ih =>
    rw [List.cons_append, exactly?]
    dsimp only
    rw [if_pos rfl, ih, List.getLastD_cons]

theorem symbol?_append {mark : String} (same : mark.toList = text) (blanks : Blanks gap)
    (solid : Solid text) :
    (⟨before, gap ++ (text ++ rest)⟩ : Cursor).symbol? mark =
      some ⟨text.getLastD (gap.getLastD before), rest⟩ := by
  rw [symbol?, skipSpace_append blanks solid, same, exactly?_append]

/-- A mark is read only where its first character stands. -/
theorem symbol?_firstVisible {cursor behind : Cursor} {mark : String} {c : Char}
    (starts : mark.toList.head? = some c) (found : cursor.symbol? mark = some behind) :
    firstVisible cursor.rest = some c := by
  rw [← skipSpace_head?, exactly?_rest found, List.head?_append, starts, Option.some_or]

theorem symbol?_eq_none {cursor : Cursor} {mark : String} {c : Char}
    (starts : mark.toList.head? = some c) (other : firstVisible cursor.rest ≠ some c) :
    cursor.symbol? mark = none := by
  cases found : cursor.symbol? mark with
  | none => rfl
  | some behind => exact absurd (symbol?_firstVisible starts found) other

theorem keyword?_append {word : String} (blanks : Blanks gap) (solid : Solid word.toList)
    (apart : joinsKeyword (gap.getLastD before) = false)
    (stops : rest.head?.any joinsKeyword = false) :
    ∃ last, (⟨before, gap ++ (word.toList ++ rest)⟩ : Cursor).keyword? word =
      some ⟨last, rest⟩ := by
  refine ⟨word.toList.getLastD (gap.getLastD before), ?_⟩
  simp only [keyword?, skipSpace_append blanks solid, apart, exactly?_append, stops,
    Bool.false_eq_true, if_false]

theorem keyword?_firstVisible {cursor behind : Cursor} {word : String} {c : Char}
    (starts : word.toList.head? = some c) (found : cursor.keyword? word = some behind) :
    firstVisible cursor.rest = some c := by
  rw [← skipSpace_head?, (keyword?_rest found).1, List.head?_append, starts, Option.some_or]

/-- Where a whole word stands no other keyword is read. -/
theorem keyword?_unique {word other : String} {behind : Cursor} (solid : Solid word.toList)
    (joins : ∀ c ∈ word.toList, joinsKeyword c) (otherJoins : ∀ c ∈ other.toList, joinsKeyword c)
    (stops : rest.head?.any joinsKeyword = false)
    (found : (⟨before, word.toList ++ rest⟩ : Cursor).keyword? other = some behind) :
    other = word := by
  obtain ⟨shape, otherStops⟩ := keyword?_rest found
  have start : (⟨before, word.toList ++ rest⟩ : Cursor).skipSpace = ⟨before, word.toList ++ rest⟩ :=
    skipSpace_append .nil solid rest
  rw [start] at shape
  have here : passWhile joinsKeyword before (word.toList ++ rest) = _ :=
    passWhile_append joins stops before
  have there : passWhile joinsKeyword before (other.toList ++ behind.rest) = _ :=
    passWhile_append otherJoins otherStops before
  have shape : word.toList ++ rest = other.toList ++ behind.rest := shape
  rw [shape, there] at here
  exact String.toList_injective (congrArg Prod.fst here)

/-! ## Names -/

theorem name?_append {name : String} (valid : IsName name) (blanks : Blanks gap)
    (stops : rest.head?.any isNameChar = false) :
    ∃ last, (⟨before, gap ++ (name.toList ++ rest)⟩ : Cursor).name? =
      some (name, ⟨last, rest⟩) := by
  obtain ⟨first, more, shape, start⟩ := valid.start
  have starts : (name.toList ++ rest).head?.any isNameStart = true := by
    rw [shape]
    exact start
  refine ⟨name.toList.getLastD (gap.getLastD before), ?_⟩
  rw [name?, skipSpace_append blanks valid.solid]
  dsimp only
  rw [if_pos starts, run, passWhile_append valid.all stops]
  dsimp only
  rw [String.ofList_toList]

/-! ## Numbers -/

theorem markedDigits?_eq_none {start : Cursor} {isMark test : Char → Bool}
    (unmarked : ∀ mark more, start.rest = '0' :: mark :: more → isMark mark = false) :
    start.markedDigits? isMark test = none := by
  unfold markedDigits?
  split
  · rename_i mark more shape
    rw [if_neg (by simp [unmarked mark more shape])]
  · rfl

theorem markedDigits?_append {isMark test : Char → Bool} {mark : Char} {digits : List Char}
    (marks : isMark mark) (filled : digits ≠ []) (passes : ∀ c ∈ digits, test c)
    (stops : rest.head?.any test = false) :
    ∃ last, (⟨before, '0' :: mark :: (digits ++ rest)⟩ : Cursor).markedDigits? isMark test =
      some ('0' :: mark :: digits, ⟨last, rest⟩) := by
  refine ⟨digits.getLastD mark, ?_⟩
  unfold markedDigits?
  split
  · rename_i other more shape
    obtain ⟨rfl, rfl⟩ : mark = other ∧ digits ++ rest = more := by simpa using shape
    rw [if_pos marks, passWhile_append passes stops]
    cases digits with
    | nil => contradiction
    | cons c more => rfl
  · rename_i unmarked
    exact absurd rfl (unmarked mark (digits ++ rest))

/-- Behind a decimal digit stands no marker, since none belongs to the digits or starts the rest. -/
private theorem unmarked_of_decimal {digits : List Char} (filled : digits ≠ [])
    (digit : ∀ c ∈ digits, c.isDigit) (stops : rest.head?.any isNameChar = false)
    {first mark : Char} {more : List Char} (shape : digits ++ rest = first :: mark :: more) :
    mark.isDigit ∨ isNameChar mark = false := by
  match digits with
  | [] => contradiction
  | [only] =>
    right
    have tail : rest = mark :: more := (List.cons.inj shape).2
    rw [tail] at stops
    exact stops
  | _ :: second :: digits =>
    left
    have same : second = mark := (List.cons.inj (List.cons.inj shape).2).1
    rw [← same]
    exact digit second (List.mem_cons_of_mem _ (List.mem_cons_self ..))

theorem numeral?_append {literal : Literal} (valid : literal.Valid) (blanks : Blanks gap)
    (stops : rest.head?.any isNameChar = false) :
    ∃ last, (⟨before, gap ++ (literal.text ++ rest)⟩ : Cursor).numeral? =
      some (literal.text, ⟨last, rest⟩) := by
  have start : (⟨before, gap ++ (literal.text ++ rest)⟩ : Cursor).skipSpace = _ :=
    skipSpace_append blanks valid.solid rest
  cases literal with
  | hexadecimal capital digits =>
    obtain ⟨last, read⟩ : ∃ last, (⟨gap.getLastD before,
        (Literal.hexadecimal capital digits).text ++ rest⟩ : Cursor).markedDigits?
          (fun c => c == 'x' || c == 'X') isHexDigit = some (_, ⟨last, rest⟩) :=
      markedDigits?_append (by cases capital <;> rfl) valid.filled valid.digit
        (stops_of_imp stops fun _ => isNameChar_of_isHexDigit)
    refine ⟨last, ?_⟩
    rw [numeral?, start, read]
    rfl
  | binary capital digits =>
    obtain ⟨last, read⟩ : ∃ last, (⟨gap.getLastD before,
        (Literal.binary capital digits).text ++ rest⟩ : Cursor).markedDigits?
          (fun c => c == 'b' || c == 'B') isBinaryDigit = some (_, ⟨last, rest⟩) :=
      markedDigits?_append (by cases capital <;> rfl) valid.filled valid.digit
        (stops_of_imp stops fun _ digit =>
          isNameChar_of_isHexDigit (isHexDigit_of_isDigit (isDigit_of_isBinaryDigit digit)))
    have noHex : (⟨gap.getLastD before, (Literal.binary capital digits).text ++ rest⟩ :
        Cursor).markedDigits? (fun c => c == 'x' || c == 'X') isHexDigit = none := by
      apply markedDigits?_eq_none
      intro mark more shape
      have same : (if capital then 'B' else 'b') = mark := (List.cons.inj (List.cons.inj shape).2).1
      rw [← same]
      cases capital <;> rfl
    refine ⟨last, ?_⟩
    rw [numeral?, start, noHex, read]
    rfl
  | decimal digits =>
    have unmarked (isMark test : Char → Bool) (inside : ∀ c, isMark c → isNameChar c ∧ ¬c.isDigit) :
        (⟨gap.getLastD before, digits ++ rest⟩ : Cursor).markedDigits? isMark test = none := by
      apply markedDigits?_eq_none
      intro mark more shape
      apply Bool.eq_false_iff.mpr
      intro marks
      rcases unmarked_of_decimal valid.filled valid.digit stops shape with digit | other
      · exact (inside mark marks).2 digit
      · exact absurd (inside mark marks).1 (Bool.eq_false_iff.mp other)
    have read := passWhile_append valid.digit
      (stops_of_imp stops fun _ digit => isNameChar_of_isHexDigit (isHexDigit_of_isDigit digit))
      (gap.getLastD before)
    refine ⟨digits.getLastD (gap.getLastD before), ?_⟩
    rw [numeral?, start]
    dsimp only [Literal.text]
    rw [unmarked _ _ ?_, unmarked _ _ ?_, run]
    · dsimp only
      rw [show passWhile Char.isDigit (gap.getLastD before) (digits ++ rest) = _ from read]
      obtain ⟨c, more, rfl⟩ := List.exists_cons_of_ne_nil valid.filled
      rfl
    · intro c mark
      simp only [Bool.or_eq_true, beq_iff_eq] at mark
      rcases mark with rfl | rfl <;> decide
    · intro c mark
      simp only [Bool.or_eq_true, beq_iff_eq] at mark
      rcases mark with rfl | rfl <;> decide

theorem markedDigits?_head? {start behind : Cursor} {isMark test : Char → Bool}
    (found : start.markedDigits? isMark test = some (text, behind)) :
    start.rest.head? = some '0' := by
  unfold markedDigits? at found
  split at found
  · rename_i shape
    rw [shape, List.head?_cons]
  · contradiction

theorem numeral?_firstVisible {cursor behind : Cursor}
    (found : cursor.numeral? = some (text, behind)) :
    ∃ c, firstVisible cursor.rest = some c ∧ c.isDigit := by
  rw [← skipSpace_head?]
  simp only [numeral?] at found
  split at found
  · rename_i hexadecimal
    cases found
    exact ⟨'0', markedDigits?_head? hexadecimal, rfl⟩
  · split at found
    · rename_i binary
      cases found
      exact ⟨'0', markedDigits?_head? binary, rfl⟩
    · cases shape : cursor.skipSpace.rest with
      | nil => simp [run, shape, passWhile] at found
      | cons c rest =>
        refine ⟨c, rfl, ?_⟩
        by_contra other
        simp [run, shape, passWhile, other] at found

/-! ## Registers -/

theorem register?_append {number : Register} (spelled : RegisterText number text)
    (blanks : Blanks gap) (stops : rest.head?.any Text.isWordChar = false) :
    ∃ last, (⟨before, gap ++ (text ++ rest)⟩ : Cursor).register? = some (number, ⟨last, rest⟩) := by
  have start : (⟨before, gap ++ (text ++ rest)⟩ : Cursor).skipSpace = _ :=
    skipSpace_append blanks spelled.solid rest
  cases spelled with
  | @mk letter digit isLetter isDigit =>
    have letters : (letter == 'v' || letter == 'V') = true := by simpa using isLetter
    refine ⟨digit, ?_⟩
    rw [register?, start]
    dsimp only [List.cons_append, List.nil_append]
    rw [letters, isDigit, stops]
    rfl

theorem register?_firstVisible {cursor behind : Cursor} {number : Register}
    (found : cursor.register? = some (number, behind)) :
    firstVisible cursor.rest = some 'v' ∨ firstVisible cursor.rest = some 'V' := by
  rw [← skipSpace_head?]
  unfold register? at found
  split at found
  · rename_i letter digit rest shape
    split at found
    · rename_i here
      simp only [Bool.and_eq_true, Bool.or_eq_true, beq_iff_eq] at here
      rw [shape, List.head?_cons]
      rcases here.1.1 with rfl | rfl
      · exact .inl rfl
      · exact .inr rfl
    · contradiction
  · contradiction

end Cursor

end Chip8.Assembly
