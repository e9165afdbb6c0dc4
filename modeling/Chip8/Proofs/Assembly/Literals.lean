import Chip8.Assembly.Cursor
import Chip8.Assembly.Numeral
import Mathlib.Data.Nat.Digits.Defs
import Mathlib.Tactic.Ring

/-! # Number literals

A literal is a row of decimal digits, or the marker of base sixteen or two and a row of digits of
that base. It denotes the positional value of its digits, and the reader of numbers finds that value
unless a decimal literal has too many digits.
-/

namespace Chip8.Assembly

/-- A number as sources can contain it. A marker may be small or capital. -/
inductive Literal where
  | decimal (digits : List Char)
  | hexadecimal (capital : Bool) (digits : List Char)
  | binary (capital : Bool) (digits : List Char)
deriving DecidableEq, Repr

namespace Literal

def digits : Literal → List Char
  | .decimal digits | .hexadecimal _ digits | .binary _ digits => digits

def base : Literal → Nat
  | .decimal _ => 10
  | .hexadecimal .. => 16
  | .binary .. => 2

def text : Literal → List Char
  | .decimal digits => digits
  | .hexadecimal capital digits => '0' :: (if capital then 'X' else 'x') :: digits
  | .binary capital digits => '0' :: (if capital then 'B' else 'b') :: digits

/-- The number that the digits denote, the last digit counting ones. -/
def value (literal : Literal) : Nat :=
  Nat.ofDigits literal.base (literal.digits.reverse.map Cursor.hexDigitValue)

def isDigit : Literal → Char → Bool
  | .decimal _ => Char.isDigit
  | .hexadecimal .. => isHexDigit
  | .binary .. => isBinaryDigit

/-- There is a digit, and all digits are digits of the base. -/
structure Valid (literal : Literal) : Prop where
  filled : literal.digits ≠ []
  digit : ∀ c ∈ literal.digits, literal.isDigit c

/-- A decimal literal has no more digits than can be read. -/
def Short : Literal → Prop
  | .decimal digits => digits.length ≤ Text.maxDecimalDigits
  | _ => True

end Literal

def IsLiteral (text : List Char) : Prop := ∃ literal : Literal, literal.Valid ∧ literal.text = text

/-! ## Digits -/

theorem isHexDigit_of_isDigit {c : Char} (digit : c.isDigit) : isHexDigit c := by
  simp [isHexDigit, digit]

theorem isDigit_of_isBinaryDigit {c : Char} (digit : isBinaryDigit c) : c.isDigit := by
  simp only [isBinaryDigit, Bool.or_eq_true, beq_iff_eq] at digit
  rcases digit with rfl | rfl <;> rfl

theorem isHexDigit_small {c : Char} (digit : isHexDigit c) : c.toNat < 128 := by
  simp only [isHexDigit, Char.isDigit, Bool.or_eq_true, Bool.and_eq_true, decide_eq_true_eq,
    Char.le_def, UInt32.le_iff_toNat_le] at digit
  have nine : '9'.val.toNat = 57 := rfl
  have f : 'f'.val.toNat = 102 := rfl
  have F : 'F'.val.toNat = 70 := rfl
  change c.val.toNat < 128
  omega

/-- A digit of any base is no blank, sign, low line or marker of base sixteen, and it is read as its
value. -/
structure PlainDigit (c : Char) : Prop where
  blank : Text.isBlank c = false
  ascii : Text.asciiDigit c = c
  line : c ≠ '_'
  minus : c ≠ '-'
  plus : c ≠ '+'
  value : ∀ base, Cursor.hexDigitValue c < base →
    Text.digitValue? base c = some (Cursor.hexDigitValue c)

private theorem digitValue?_of_widest {c : Char} {value base : Nat}
    (read : Text.digitValue? 36 c = some value) (small : value < base) :
    Text.digitValue? base c = some value := by
  unfold Text.digitValue? at read ⊢
  dsimp only at read ⊢
  rw [(Option.filter_eq_some_iff.mp read).1, Option.filter_some, if_pos (by simpa using small)]

theorem plainDigit_of_isHexDigit {c : Char} (digit : isHexDigit c) : PlainDigit c := by
  have checked : ∀ code < 128, isHexDigit (Char.ofNat code) →
      Text.isBlank (Char.ofNat code) = false ∧ Text.asciiDigit (Char.ofNat code) = Char.ofNat code ∧
      Char.ofNat code ≠ '_' ∧ Char.ofNat code ≠ '-' ∧ Char.ofNat code ≠ '+' ∧
      Text.digitValue? 36 (Char.ofNat code) = some (Cursor.hexDigitValue (Char.ofNat code)) := by
    decide +kernel
  have facts := checked c.toNat (isHexDigit_small digit)
  rw [Char.ofNat_toNat] at facts
  obtain ⟨blank, ascii, line, minus, plus, value⟩ := facts digit
  exact ⟨blank, ascii, line, minus, plus, fun base small => digitValue?_of_widest value small⟩

namespace Literal

variable {literal : Literal}

theorem isHexDigit_of_digit {c : Char} (digit : literal.isDigit c) : isHexDigit c := by
  cases literal with
  | decimal => exact isHexDigit_of_isDigit digit
  | hexadecimal => exact digit
  | binary => exact isHexDigit_of_isDigit (isDigit_of_isBinaryDigit digit)

/-- The value of a digit is less than the base. -/
theorem hexDigitValue_lt_base {c : Char} (digit : literal.isDigit c) :
    Cursor.hexDigitValue c < literal.base := by
  have checked : ∀ code < 128,
      ((Char.ofNat code).isDigit → Cursor.hexDigitValue (Char.ofNat code) < 10) ∧
      (isHexDigit (Char.ofNat code) → Cursor.hexDigitValue (Char.ofNat code) < 16) ∧
      (isBinaryDigit (Char.ofNat code) → Cursor.hexDigitValue (Char.ofNat code) < 2) := by
    decide +kernel
  have facts := checked c.toNat (isHexDigit_small (isHexDigit_of_digit digit))
  rw [Char.ofNat_toNat] at facts
  cases literal with
  | decimal => exact facts.1 digit
  | hexadecimal => exact facts.2.1 digit
  | binary => exact facts.2.2 digit

/-! ## Reading the value -/

/-- No digit can be taken for the sign of a marker. -/
theorem Valid.skipMarker (valid : literal.Valid) :
    Text.skipMarker literal.base literal.digits = literal.digits := by
  unfold Text.skipMarker
  cases literal with
  | decimal digits => split <;> rfl
  | hexadecimal capital digits =>
    have digit : ∀ c ∈ digits, isHexDigit c := valid.digit
    split
    · exact absurd (digit 'x' (by simp_all [Literal.digits])) (by decide)
    · exact absurd (digit 'X' (by simp_all [Literal.digits])) (by decide)
    · rfl
    · rfl
    · rfl
  | binary capital digits =>
    have digit : ∀ c ∈ digits, isBinaryDigit c := valid.digit
    split
    · rfl
    · rfl
    · exact absurd (digit 'b' (by simp_all [Literal.digits])) (by decide)
    · exact absurd (digit 'B' (by simp_all [Literal.digits])) (by decide)
    · rfl

/-- Digits without low lines are read one by one. -/
theorem groupedDigits?_plain (base : Nat) {digits : List Char} (filled : digits ≠ [])
    (plain : ∀ c ∈ digits, PlainDigit c ∧ Cursor.hexDigitValue c < base) :
    Text.groupedDigits? base digits = some (digits.map Cursor.hexDigitValue) := by
  induction digits with
  | nil => contradiction
  | cons c rest ih =>
    obtain ⟨digit, small⟩ := plain c (List.mem_cons_self ..)
    cases rest with
    | nil => simp only [Text.groupedDigits?, digit.value base small, Option.map_some, List.map_cons,
        List.map_nil]
    | cons d rest =>
      have line : d ≠ '_' := (plain d (by simp)).1.line
      have later := ih (List.cons_ne_nil d rest)
        fun other member => plain other (List.mem_cons_of_mem _ member)
      rw [Text.groupedDigits?, digit.value base small, later]
      · rfl
      · exact List.cons_ne_nil d rest
      · intro tail same
        exact line (List.cons.inj same).1

/-- Reading digits from the first on gives their positional value. -/
theorem positionalValue_eq_ofDigits (base : Nat) (digits : List Nat) :
    Text.positionalValue base digits = Nat.ofDigits base digits.reverse := by
  rw [Text.positionalValue_eq_foldl, Nat.ofDigits_eq_foldr, List.foldr_reverse]
  congr 1
  funext value digit
  simp only [Nat.cast_id]
  ring

theorem Valid.plain (valid : literal.Valid) :
    ∀ c ∈ literal.digits, PlainDigit c ∧ Cursor.hexDigitValue c < literal.base := by
  intro c member
  have digit := valid.digit c member
  exact ⟨plainDigit_of_isHexDigit (isHexDigit_of_digit digit), hexDigitValue_lt_base digit⟩

theorem Valid.readMagnitude? (valid : literal.Valid) (short : literal.Short) :
    Text.readMagnitude? literal.base literal.digits = some literal.value := by
  have room : ¬(literal.base = 10 ∧
      Text.maxDecimalDigits < (literal.digits.map Cursor.hexDigitValue).length) := by
    cases literal with
    | decimal digits =>
      have few : digits.length ≤ Text.maxDecimalDigits := short
      rintro ⟨_, many⟩
      rw [List.length_map] at many
      exact Nat.not_lt_of_le few many
    | hexadecimal => simp [base]
    | binary => simp [base]
  simp only [Text.readMagnitude?, valid.skipMarker, groupedDigits?_plain _ valid.filled valid.plain,
    Option.bind_eq_bind, Option.bind_some, room, if_false, positionalValue_eq_ofDigits, value,
    List.map_reverse]

private theorem dropWhile_isBlank_plain {digits : List Char} (plain : ∀ c ∈ digits, PlainDigit c) :
    digits.dropWhile Text.isBlank = digits := by
  cases digits with
  | nil => rfl
  | cons c rest =>
    have blank := (plain c (List.mem_cons_self ..)).blank
    exact List.dropWhile_cons_of_neg (by simp [blank])

/-- Nothing is trimmed from digits, and they have no sign. -/
theorem readInteger?_plain (base : Nat) {digits : List Char} (plain : ∀ c ∈ digits, PlainDigit c) :
    Text.readInteger? base digits = (Text.readMagnitude? base digits).map Nat.cast := by
  have ascii : digits.map Text.asciiDigit = digits :=
    (List.map_congr_left fun c member => (plain c member).ascii).trans (List.map_id' digits)
  have trimmed : Text.trimBlanks digits = digits := by
    rw [Text.trimBlanks, dropWhile_isBlank_plain plain, dropWhile_isBlank_plain,
      List.reverse_reverse]
    intro c member
    exact plain c (List.mem_reverse.mp member)
  rw [Text.readInteger?, trimmed, ascii]
  split
  · exact absurd rfl (plain '-' (List.mem_cons_self ..)).minus
  · exact absurd rfl (plain '+' (List.mem_cons_self ..)).plus
  · cases Text.readMagnitude? base digits <;> rfl

/-- The reader of numbers reads the digits of a literal in its base. -/
theorem Valid.numeralValue? (valid : literal.Valid) :
    Assembly.numeralValue? literal.text =
      (Text.readMagnitude? literal.base literal.digits).map Nat.cast := by
  have read := readInteger?_plain literal.base fun c member => (valid.plain c member).1
  cases literal with
  | decimal digits =>
    have digit : ∀ c ∈ digits, c.isDigit := valid.digit
    rw [← read]
    unfold Assembly.numeralValue?
    split
    · exact absurd (digit 'x' (by simp_all [text])) (by decide)
    · exact absurd (digit 'X' (by simp_all [text])) (by decide)
    · exact absurd (digit 'b' (by simp_all [text])) (by decide)
    · exact absurd (digit 'B' (by simp_all [text])) (by decide)
    · rfl
  | hexadecimal capital digits => cases capital <;> exact read
  | binary capital digits => cases capital <;> exact read

/-- A literal with not too many decimal digits is read as the value of its digits. -/
theorem Valid.numeralValue?_of_short (valid : literal.Valid) (short : literal.Short) :
    Assembly.numeralValue? literal.text = some (literal.value : Int) := by
  rw [valid.numeralValue?, valid.readMagnitude? short]
  rfl

/-- No literal is read as a negative number. -/
theorem Valid.numeralValue?_nonneg (valid : literal.Valid) {value : Int}
    (read : Assembly.numeralValue? literal.text = some value) : 0 ≤ value := by
  rw [valid.numeralValue?] at read
  obtain ⟨magnitude, _, rfl⟩ := Option.map_eq_some_iff.mp read
  exact Int.natCast_nonneg magnitude

end Literal

end Chip8.Assembly
