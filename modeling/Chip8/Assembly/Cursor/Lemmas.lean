import Chip8.Assembly.Cursor

/-! # Tokens and the text that is left

Where a token is read, its own text stands behind the blanks, and behind that the text that is left.
So what is left behind a token is an end of what was left in front of it.
-/

namespace Chip8.Assembly

/-- A name as sources can contain it: letters, digits and low lines, a digit not first. -/
structure IsName (name : String) : Prop where
  start : ∃ first rest, name.toList = first :: rest ∧ isNameStart first
  all : ∀ c ∈ name.toList, isNameChar c

def Blanks (text : List Char) : Prop := ∀ c ∈ text, isSpace c

theorem Blanks.nil : Blanks [] := fun _ member => absurd member List.not_mem_nil

theorem Blanks.cons {c : Char} {rest : List Char} (blank : isSpace c) (blanks : Blanks rest) :
    Blanks (c :: rest) := by
  intro other member
  rcases List.mem_cons.mp member with rfl | later
  · exact blank
  · exact blanks other later

theorem Blanks.tail {c : Char} {rest : List Char} (blanks : Blanks (c :: rest)) : Blanks rest :=
  fun other member => blanks other (List.mem_cons_of_mem _ member)

namespace Cursor

variable {cursor behind : Cursor}

/-! ## Runs of characters -/

theorem passWhile_cut (test : Char → Bool) (before : Char) (text : List Char) :
    (passWhile test before text).1 ++ (passWhile test before text).2.rest = text := by
  induction text generalizing before with
  | nil => rfl
  | cons c rest ih =>
    by_cases passes : test c
    · simp only [passWhile, passes, if_true, List.cons_append, ih c]
    · simp [passWhile, passes]

theorem run_cut (cursor : Cursor) (test : Char → Bool) :
    (cursor.run test).1 ++ (cursor.run test).2.rest = cursor.rest :=
  passWhile_cut test cursor.before cursor.rest

theorem passWhile_all (test : Char → Bool) (before : Char) (text : List Char) :
    ∀ c ∈ (passWhile test before text).1, test c := by
  induction text generalizing before with
  | nil => simp [passWhile]
  | cons c rest ih =>
    by_cases passes : test c
    · simpa [passWhile, passes] using ih c
    · simp [passWhile, passes]

/-- The first character behind a run is the first that fails its test. -/
theorem passWhile_head? (test : Char → Bool) (before : Char) (text : List Char) :
    (passWhile test before text).2.rest.head?.all fun c => !test c := by
  induction text generalizing before with
  | nil => simp [passWhile]
  | cons c rest ih =>
    by_cases passes : test c
    · simpa [passWhile, passes] using ih c
    · simp [passWhile, passes]

/-- Nothing but blanks stands in front of the next character that is not a blank. -/
theorem exists_gap (cursor : Cursor) :
    ∃ gap, Blanks gap ∧ cursor.rest = gap ++ cursor.skipSpace.rest :=
  ⟨_, passWhile_all isSpace cursor.before cursor.rest, (run_cut cursor isSpace).symm⟩

theorem skipSpace_stops (cursor : Cursor) : cursor.skipSpace.rest.head?.all fun c => !isSpace c :=
  passWhile_head? isSpace cursor.before cursor.rest

/-- Nothing is passed where the next character fails the test. -/
theorem passWhile_of_head? {test : Char → Bool} {text : List Char}
    (stops : text.head?.all fun c => !test c) (before : Char) :
    passWhile test before text = ([], ⟨before, text⟩) := by
  cases text with
  | nil => rfl
  | cons c rest =>
    have fails : test c = false := by simpa using stops
    simp [passWhile, fails]

theorem skipSpace_skipSpace (cursor : Cursor) : cursor.skipSpace.skipSpace = cursor.skipSpace := by
  rw [skipSpace, run, passWhile_of_head? cursor.skipSpace_stops]

theorem skipSpace_suffix (cursor : Cursor) : cursor.skipSpace.rest <:+ cursor.rest := by
  obtain ⟨gap, _, cut⟩ := cursor.exists_gap
  exact ⟨gap, cut.symm⟩

/-- Where a text stands behind the blanks, what is left behind it is an end of what was left. -/
theorem suffix_of_rest {text : List Char}
    (shape : cursor.skipSpace.rest = text ++ behind.rest) : behind.rest <:+ cursor.rest :=
  List.IsSuffix.trans ⟨text, shape.symm⟩ cursor.skipSpace_suffix

/-! ## Tokens -/

theorem exactly?_rest {text : List Char} (found : cursor.exactly? text = some behind) :
    cursor.rest = text ++ behind.rest := by
  induction text generalizing cursor with
  | nil =>
    cases found
    rfl
  | cons expected more ih =>
    unfold exactly? at found
    split at found
    · rename_i c rest shape
      split at found
      · rename_i same
        have later : rest = more ++ behind.rest := ih found
        rw [shape, same, later, List.cons_append]
      · contradiction
    · contradiction

theorem symbol?_rest {mark : String} (found : cursor.symbol? mark = some behind) :
    cursor.skipSpace.rest = mark.toList ++ behind.rest := exactly?_rest found

theorem keyword?_rest {word : String} (found : cursor.keyword? word = some behind) :
    cursor.skipSpace.rest = word.toList ++ behind.rest ∧
      behind.rest.head?.any joinsKeyword = false := by
  simp only [keyword?] at found
  split at found
  · contradiction
  · split at found
    · rename_i place exact
      split at found
      · contradiction
      · rename_i stops
        cases found
        exact ⟨exactly?_rest exact, Bool.eq_false_iff.mpr stops⟩
    · contradiction

theorem isNameChar_of_isNameStart {c : Char} (start : isNameStart c) : isNameChar c := by
  simp only [isNameStart, isNameChar, Char.isAlphanum, Bool.or_eq_true] at *
  rcases start with letter | line
  · exact .inl (.inl letter)
  · exact .inr line

theorem name?_rest {name : String} (found : cursor.name? = some (name, behind)) :
    cursor.skipSpace.rest = name.toList ++ behind.rest := by
  simp only [name?] at found
  split at found
  · cases found
    rw [String.toList_ofList, run_cut]
  · contradiction

theorem name?_isName {name : String} (found : cursor.name? = some (name, behind)) :
    IsName name := by
  simp only [name?] at found
  split at found
  · rename_i starts
    cases found
    have all := passWhile_all isNameChar cursor.skipSpace.before cursor.skipSpace.rest
    refine ⟨?_, by simpa [run] using all⟩
    cases shape : cursor.skipSpace.rest with
    | nil => simp [shape] at starts
    | cons c rest =>
      have start : isNameStart c := by simpa [shape] using starts
      refine ⟨c, (passWhile isNameChar c rest).1, ?_, start⟩
      simp [run, shape, passWhile, isNameChar_of_isNameStart start]
  · contradiction

theorem markedDigits?_rest {start : Cursor} {isMark test : Char → Bool} {text : List Char}
    (found : start.markedDigits? isMark test = some (text, behind)) :
    start.rest = text ++ behind.rest := by
  unfold markedDigits? at found
  split at found
  · rename_i mark rest shape
    have cut := passWhile_cut test mark rest
    split at found
    · split at found
      · contradiction
      · rename_i passed
        rw [passed] at cut
        cases found
        rw [shape, ← cut, List.cons_append, List.cons_append]
    · contradiction
  · contradiction

theorem numeral?_rest {text : List Char} (found : cursor.numeral? = some (text, behind)) :
    cursor.skipSpace.rest = text ++ behind.rest := by
  simp only [numeral?] at found
  split at found
  · rename_i hex
    cases found
    exact markedDigits?_rest hex
  · split at found
    · rename_i binary
      cases found
      exact markedDigits?_rest binary
    · have cut := run_cut cursor.skipSpace Char.isDigit
      split at found
      · contradiction
      · rename_i passed
        rw [passed] at cut
        cases found
        exact cut.symm

theorem register?_rest {register : Register} (found : cursor.register? = some (register, behind)) :
    ∃ letter digit, cursor.skipSpace.rest = [letter, digit] ++ behind.rest := by
  unfold register? at found
  split at found
  · rename_i letter digit rest shape
    split at found
    · cases found
      exact ⟨letter, digit, shape⟩
    · contradiction
  · contradiction

end Cursor

end Chip8.Assembly
