import Chip8.Proofs.Assembly.Tokens

/-! # Numerals and the numbers that they denote

A numeral is looked for in three shapes, one after the other: behind the marker of base sixteen,
behind that of base two, and without a marker. The first that is found is the longest, since a
marker is no decimal digit: whatever literal a text starts with, the numeral that is read from the
text starts with that literal (`Cursor.numeral?_of_prefix`). What is read is then taken for the
positional value of its digits, so a number that is written down in one of the bases is found again.
-/

namespace Chip8.Assembly

/-! ## Numbers that are written down -/

section Written

variable {base : Nat}

/-- A digit of a number, be it a small letter or a capital one, is read as its value. -/
theorem digit_of_toLower {c : Char} {digit : Nat} (small : digit < 16)
    (lower : c.toLower = Nat.digitChar digit) :
    isHexDigit c ∧ Cursor.hexDigitValue c = digit := by
  have checked : ∀ code < 128, ∀ digit < 16,
      (Char.ofNat code).toLower = Nat.digitChar digit →
        isHexDigit (Char.ofNat code) ∧ Cursor.hexDigitValue (Char.ofNat code) = digit := by
    decide +kernel
  have ascii : c.toNat < 128 := by
    by_cases capital : c.val ≥ 'A'.val ∧ c.val ≤ 'Z'.val
    · exact Nat.lt_of_le_of_lt (UInt32.le_iff_toNat_le.mp capital.2) (by decide)
    · have written : ∀ digit < 16, (Nat.digitChar digit).toNat < 128 := by decide
      have same : c.toLower = c := dif_neg capital
      rw [← same, lower]
      exact written digit small
  have here := checked c.toNat ascii digit small
  rw [Char.ofNat_toNat] at here
  exact here lower

theorem toLower_digitChar {digit : Nat} (small : digit < 16) :
    (Nat.digitChar digit).toLower = Nat.digitChar digit := by
  have checked : ∀ digit < 16, (Nat.digitChar digit).toLower = Nat.digitChar digit := by decide
  exact checked digit small

theorem hexDigitValue_digitChar {digit : Nat} (small : digit < 16) :
    Cursor.hexDigitValue (Nat.digitChar digit) = digit :=
  (digit_of_toLower small (toLower_digitChar small)).2

/-- The digits of a number in a base have values below the base. -/
theorem exists_of_mem_toDigits (several : 1 < base) {number : Nat} {c : Char}
    (member : c ∈ Nat.toDigits base number) : ∃ digit < base, c = Nat.digitChar digit := by
  induction number using Nat.strongRecOn with
  | ind number ih =>
    rw [Nat.toDigits_eq_if several] at member
    split at member
    · rename_i small
      exact ⟨number, small, List.mem_singleton.mp member⟩
    · rename_i large
      rcases List.mem_append.mp member with front | last
      · exact ih (number / base) (Nat.div_lt_self (by omega) several) front
      · exact ⟨number % base, Nat.mod_lt number (by omega), List.mem_singleton.mp last⟩

/-- The positional value of the digits of a number is the number. -/
theorem ofDigits_toDigits (several : 1 < base) (few : base ≤ 16) (number : Nat) :
    Nat.ofDigits base ((Nat.toDigits base number).reverse.map Cursor.hexDigitValue) = number := by
  induction number using Nat.strongRecOn with
  | ind number ih =>
    rw [Nat.toDigits_eq_if several]
    split
    · rename_i small
      rw [List.reverse_singleton, List.map_singleton, Nat.ofDigits_singleton,
        hexDigitValue_digitChar (Nat.lt_of_lt_of_le small few)]
    · rename_i large
      -- The last digit counts ones, the others are those of the quotient.
      have last : number % base < 16 := Nat.lt_of_lt_of_le (Nat.mod_lt number (by omega)) few
      rw [List.reverse_append, List.reverse_singleton, List.singleton_append, List.map_cons,
        Nat.ofDigits_cons, hexDigitValue_digitChar last,
        ih (number / base) (Nat.div_lt_self (by omega) several), Nat.mod_add_div]

end Written

namespace Literal

variable {literal : Literal} {number : Nat}

theorem base_bounds (literal : Literal) : 1 < literal.base ∧ literal.base ≤ 16 := by
  cases literal <;> simp [base]

/-- A digit of base sixteen is one of a smaller base if its value is. -/
theorem isDigit_of_value {c : Char} (digit : isHexDigit c)
    (small : Cursor.hexDigitValue c < literal.base) : literal.isDigit c := by
  have checked : ∀ code < 128, isHexDigit (Char.ofNat code) →
      (Cursor.hexDigitValue (Char.ofNat code) < 10 → (Char.ofNat code).isDigit) ∧
      (Cursor.hexDigitValue (Char.ofNat code) < 2 → isBinaryDigit (Char.ofNat code)) := by
    decide +kernel
  have facts := checked c.toNat (isHexDigit_small digit)
  rw [Char.ofNat_toNat] at facts
  cases literal with
  | decimal => exact (facts digit).1 small
  | hexadecimal => exact digit
  | binary => exact (facts digit).2 small

/-- The digits of a literal are those of a number in its base, in small letters or capital ones. -/
def Spells (literal : Literal) (number : Nat) : Prop :=
  literal.digits.map Char.toLower = Nat.toDigits literal.base number

theorem spells_of_toDigits (written : literal.digits = Nat.toDigits literal.base number) :
    literal.Spells number := by
  have same : ∀ c ∈ Nat.toDigits literal.base number, c.toLower = c := by
    intro c member
    obtain ⟨digit, small, rfl⟩ := exists_of_mem_toDigits literal.base_bounds.1 member
    exact toLower_digitChar (Nat.lt_of_lt_of_le small literal.base_bounds.2)
  rw [Spells, written]
  exact (List.map_congr_left same).trans (List.map_id' _)

theorem Spells.digit (spells : literal.Spells number) {c : Char} (member : c ∈ literal.digits) :
    ∃ digit < literal.base, c.toLower = Nat.digitChar digit :=
  exists_of_mem_toDigits literal.base_bounds.1 (spells ▸ List.mem_map_of_mem member)

/-- A number that is written in the base of a literal makes it one that sources can contain. -/
theorem Spells.valid (spells : literal.Spells number) : literal.Valid where
  filled none := by
    rw [Spells, none] at spells
    exact Nat.toDigits_ne_nil spells.symm
  digit c member := by
    obtain ⟨digit, small, lower⟩ := spells.digit member
    obtain ⟨hex, value⟩ := digit_of_toLower (Nat.lt_of_lt_of_le small literal.base_bounds.2) lower
    exact isDigit_of_value hex (value.trans_lt small)

theorem Spells.value_eq (spells : literal.Spells number) : literal.value = number := by
  have same : literal.digits.map Cursor.hexDigitValue =
      (Nat.toDigits literal.base number).map Cursor.hexDigitValue := by
    rw [← spells, List.map_map]
    apply List.map_congr_left
    intro c member
    obtain ⟨digit, small, lower⟩ := spells.digit member
    have few : digit < 16 := Nat.lt_of_lt_of_le small literal.base_bounds.2
    rw [Function.comp_apply, lower, (digit_of_toLower few lower).2, hexDigitValue_digitChar few]
  rw [value, List.map_reverse, same, ← List.map_reverse,
    ofDigits_toDigits literal.base_bounds.1 literal.base_bounds.2]

/-- It is read as that number, unless its digits are too many. -/
theorem Spells.numeralValue? (spells : literal.Spells number) (short : literal.Short) :
    Assembly.numeralValue? literal.text = some (number : Int) := by
  rw [spells.valid.numeralValue?_of_short short, spells.value_eq]

/-- The digits of a number below a power of ten are no more than the power says. -/
theorem short_decimal (small : number < 10 ^ Text.maxDecimalDigits) :
    (decimal (Nat.toDigits 10 number)).Short :=
  (Nat.length_toDigits_le_iff (by decide) (by decide)).mpr small

end Literal

/-- A number that a message shows in base sixteen is read as that number. -/
theorem numeralValue?_lowerHex (number : Nat) :
    numeralValue? (Text.lowerHex number).toList = some (number : Int) := by
  have shown : (Text.lowerHex number).toList =
      (Literal.hexadecimal false (Nat.toDigits 16 number)).text := by
    simp [Text.lowerHex, Text.signText, Text.hexDigits_eq, Literal.text]
  rw [shown]
  exact (Literal.spells_of_toDigits rfl).numeralValue? trivial

/-! ## The longest numeral -/

namespace Cursor

variable {start behind cursor : Cursor} {isMark test : Char → Bool} {text digits rest : List Char}

/-- A run reaches at least as far as any characters that pass the test. -/
theorem passWhile_of_prefix (passes : ∀ c ∈ digits, test c) (here : digits <+: text)
    (before : Char) : digits <+: (passWhile test before text).1 := by
  induction digits generalizing text before with
  | nil => exact List.nil_prefix
  | cons c digits ih =>
    obtain ⟨more, rfl⟩ := here
    rw [List.cons_append, passWhile, if_pos (passes c (List.mem_cons_self ..))]
    refine (List.prefix_cons_inj c).mpr (ih (fun other member => ?_) (List.prefix_append ..) c)
    exact passes other (List.mem_cons_of_mem _ member)

/-- Behind a marker all digits of its base are read. -/
theorem markedDigits?_of_prefix {mark : Char} (marks : isMark mark) (filled : digits ≠ [])
    (passes : ∀ c ∈ digits, test c) (here : '0' :: mark :: digits <+: start.rest) :
    ∃ text behind, start.markedDigits? isMark test = some (text, behind) ∧
      '0' :: mark :: digits <+: text := by
  obtain ⟨more, shape⟩ := here
  have reach := passWhile_of_prefix passes (List.prefix_append digits more) mark
  unfold markedDigits?
  split
  · rename_i other rest same
    obtain ⟨rfl, rfl⟩ : mark = other ∧ digits ++ more = rest := by simpa using shape.trans same
    rw [if_pos marks]
    split
    · rename_i passed
      rw [passed] at reach
      exact absurd (List.prefix_nil.mp reach) filled
    · rename_i passed
      rw [passed] at reach
      refine ⟨_, _, rfl, ?_⟩
      exact (List.prefix_cons_inj '0').mpr ((List.prefix_cons_inj mark).mpr reach)
  · rename_i unmarked
    exact absurd shape.symm (unmarked mark (digits ++ more))

theorem isDigit_eq_false_of_mark {small capital : Char} (smallLetter : small.isDigit = false)
    (capitalLetter : capital.isDigit = false) (c : Char) (mark : c == small || c == capital) :
    c.isDigit = false := by
  simp only [Bool.or_eq_true, beq_iff_eq] at mark
  rcases mark with rfl | rfl
  · exact smallLetter
  · exact capitalLetter

/-- Digits that a marker does not belong to end in front of it. -/
theorem prefix_of_markedDigits? (found : start.markedDigits? isMark test = some (text, behind))
    (apart : ∀ c, isMark c → c.isDigit = false) (passes : ∀ c ∈ digits, c.isDigit)
    (here : digits <+: start.rest) : digits <+: text := by
  obtain ⟨mark, marked, rfl, marks, -, -⟩ := markedDigits?_digits found
  have read : '0' :: mark :: marked <+: start.rest := ⟨_, (markedDigits?_rest found).symm⟩
  rcases List.prefix_or_prefix_of_prefix here read with shorter | longer
  · exact shorter
  · have inside : mark ∈ digits := longer.subset (by simp)
    exact absurd (passes mark inside) (Bool.eq_false_iff.mp (apart mark marks))

theorem numeral?_of_decimal_prefix (filled : digits ≠ []) (passes : ∀ c ∈ digits, c.isDigit)
    (here : digits <+: cursor.skipSpace.rest) :
    ∃ text behind, cursor.numeral? = some (text, behind) ∧ digits <+: text := by
  have reach := passWhile_of_prefix passes here cursor.skipSpace.before
  dsimp only [numeral?]
  split
  · rename_i hexadecimal
    have apart := isDigit_eq_false_of_mark (show 'x'.isDigit = false from rfl)
      (show 'X'.isDigit = false from rfl)
    exact ⟨_, _, rfl, prefix_of_markedDigits? hexadecimal apart passes here⟩
  · split
    · rename_i binary
      have apart := isDigit_eq_false_of_mark (show 'b'.isDigit = false from rfl)
        (show 'B'.isDigit = false from rfl)
      exact ⟨_, _, rfl, prefix_of_markedDigits? binary apart passes here⟩
    · split
      · rename_i passed
        rw [run] at passed
        rw [passed] at reach
        exact absurd (List.prefix_nil.mp reach) filled
      · rename_i passed
        rw [run] at passed
        rw [passed] at reach
        exact ⟨_, _, rfl, reach⟩

/-- Whatever literal a text starts with, the numeral that is read starts with it too. -/
theorem numeral?_of_prefix {literal : Literal} (valid : literal.Valid)
    (here : literal.text <+: cursor.skipSpace.rest) :
    ∃ text behind, cursor.numeral? = some (text, behind) ∧ literal.text <+: text := by
  cases literal with
  | hexadecimal capital digits =>
    obtain ⟨text, behind, found, longer⟩ :
        ∃ text behind, cursor.skipSpace.markedDigits? (fun c => c == 'x' || c == 'X') isHexDigit =
          some (text, behind) ∧ (Literal.hexadecimal capital digits).text <+: text :=
      markedDigits?_of_prefix (by cases capital <;> rfl) valid.filled valid.digit here
    refine ⟨text, behind, ?_, longer⟩
    rw [numeral?, found]
  | binary capital digits =>
    obtain ⟨text, behind, found, longer⟩ :
        ∃ text behind, cursor.skipSpace.markedDigits? (fun c => c == 'b' || c == 'B')
          isBinaryDigit = some (text, behind) ∧ (Literal.binary capital digits).text <+: text :=
      markedDigits?_of_prefix (by cases capital <;> rfl) valid.filled valid.digit here
    have unmarked : cursor.skipSpace.markedDigits? (fun c => c == 'x' || c == 'X') isHexDigit =
        none := by
      apply markedDigits?_eq_none
      intro mark more shape
      rw [shape] at here
      have same : (if capital then 'B' else 'b') = mark :=
        (List.cons_prefix_cons.mp (List.cons_prefix_cons.mp here).2).1
      rw [← same]
      cases capital <;> rfl
    refine ⟨text, behind, ?_, longer⟩
    rw [numeral?, unmarked, found]
  | decimal digits => exact numeral?_of_decimal_prefix valid.filled valid.digit here

/-- Where a digit stands behind the blanks, the longest literal is read that stands there. -/
theorem numeral?_longest {c : Char} (digit : c.isDigit)
    (shape : cursor.skipSpace.rest = c :: rest) :
    ∃ text behind, cursor.numeral? = some (text, behind) ∧ text ++ behind.rest = c :: rest ∧
      IsLiteral text ∧ ∀ other, IsLiteral other → other <+: c :: rest → other <+: text := by
  have single : (Literal.decimal [c]).Valid :=
    ⟨List.cons_ne_nil c [], List.forall_mem_singleton.mpr digit⟩
  have starts : (Literal.decimal [c]).text <+: cursor.skipSpace.rest :=
    ⟨rest, shape.symm⟩
  obtain ⟨text, behind, found, -⟩ := numeral?_of_prefix single starts
  refine ⟨text, behind, found, (numeral?_rest found).symm.trans shape, numeral?_isLiteral found, ?_⟩
  rintro _ ⟨literal, valid, rfl⟩ here
  obtain ⟨_, _, again, longer⟩ := numeral?_of_prefix valid (shape ▸ here)
  rw [found] at again
  cases again
  exact longer

end Cursor

/-- A literal is read as the positional value of its digits, a decimal one as long as it has no more
digits than can be read. So a number that is written in base ten, sixteen or two is read as itself,
letters being small or capital. Where a digit stands, with or without blanks in front, what is taken
for a numeral is the longest literal that stands there, whatever follows it. -/
theorem numerals_denote_their_value :
    (∀ literal : Literal, literal.Valid → literal.Short →
      numeralValue? literal.text = some (literal.value : Int)) ∧
    (∀ number : Nat,
      (number < 10 ^ Text.maxDecimalDigits →
        numeralValue? (Literal.decimal (Nat.toDigits 10 number)).text = some (number : Int)) ∧
      (∀ capital digits, digits.map Char.toLower = Nat.toDigits 16 number →
        numeralValue? (Literal.hexadecimal capital digits).text = some (number : Int)) ∧
      ∀ capital,
        numeralValue? (Literal.binary capital (Nat.toDigits 2 number)).text =
          some (number : Int)) ∧
    ∀ (before c : Char) (gap rest : List Char), Blanks gap → c.isDigit →
      ∃ text behind, (⟨before, gap ++ c :: rest⟩ : Cursor).numeral? = some (text, behind) ∧
        text ++ behind.rest = c :: rest ∧ IsLiteral text ∧
        ∀ other, IsLiteral other → other <+: c :: rest → other <+: text := by
  refine ⟨fun literal valid short => valid.numeralValue?_of_short short, fun number => ?_, ?_⟩
  · refine ⟨fun small => ?_, fun capital digits spelled => ?_, fun capital => ?_⟩
    · exact (Literal.spells_of_toDigits rfl).numeralValue? (Literal.short_decimal small)
    · exact Literal.Spells.numeralValue? spelled trivial
    · exact (Literal.spells_of_toDigits rfl).numeralValue? trivial
  · intro before c gap rest blanks digit
    have solid : Solid [c] :=
      ⟨c, [], rfl, isSpace_eq_false_of_isNameChar
        (isNameChar_of_isHexDigit (isHexDigit_of_isDigit digit))⟩
    apply Cursor.numeral?_longest digit
    rw [← List.singleton_append, Cursor.skipSpace_append blanks solid rest]

/-- A hexadecimal literal whose digits start like the marker of base two, the least number of five
digits, a number in capital letters, and digits of base two that a digit of no such base follows. -/
theorem nested_numerals_denote_their_value :
    ((Literal.hexadecimal false ['b', '1']).Valid ∧ (Literal.hexadecimal false ['b', '1']).Short ∧
      numeralValue? (Literal.hexadecimal false ['b', '1']).text = some 0xB1) ∧
    (10000 < 10 ^ Text.maxDecimalDigits ∧
      numeralValue? (Literal.decimal (Nat.toDigits 10 10000)).text = some 10000) ∧
    (['B', 'e'].map Char.toLower = Nat.toDigits 16 0xBE ∧
      numeralValue? (Literal.hexadecimal true ['B', 'e']).text = some 0xBE) ∧
    Blanks [' '] ∧ '0'.isDigit ∧
      ∃ text behind, (⟨',', [' '] ++ '0' :: ['b', '1', '2']⟩ : Cursor).numeral? =
        some (text, behind) ∧ text ++ behind.rest = ['0', 'b', '1', '2'] ∧
        ['0', 'b', '1'] <+: text := by
  obtain ⟨denotes, written, longest⟩ := numerals_denote_their_value
  have valid : (Literal.hexadecimal false ['b', '1']).Valid :=
    ⟨List.cons_ne_nil _ _, List.forall_mem_cons.mpr ⟨rfl, List.forall_mem_singleton.mpr rfl⟩⟩
  have few : 10 ^ 5 ≤ 10 ^ Text.maxDecimalDigits := Nat.pow_le_pow_right (by decide) (by decide)
  have small : 10000 < 10 ^ Text.maxDecimalDigits := Nat.lt_of_lt_of_le (by decide) few
  have spelled : ['B', 'e'].map Char.toLower = Nat.toDigits 16 0xBE := by decide
  have blanks : Blanks [' '] := Blanks.cons rfl .nil
  obtain ⟨text, behind, found, cut, -, longer⟩ := longest ',' '0' [' '] ['b', '1', '2'] blanks rfl
  refine ⟨⟨valid, trivial, denotes _ valid trivial⟩, ⟨small, (written 10000).1 small⟩,
    ⟨spelled, (written 0xBE).2.1 true _ spelled⟩, blanks, rfl, text, behind, found, cut,
    longer ['0', 'b', '1'] ?_ (by decide)⟩
  exact ⟨.binary false ['1'],
    ⟨List.cons_ne_nil _ _, List.forall_mem_singleton.mpr rfl⟩, rfl⟩

end Chip8.Assembly
