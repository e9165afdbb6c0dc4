import Chip8.Text.Blank
import Chip8.Text.DecimalDigit

/-! # Reading whole numbers

A whole number in a text has an optional sign and digits, which may be grouped by single low lines;
blanks may surround it. Base sixteen and base two admit a marker before the digits. The decimal
digits of all scripts count as digits.
-/

namespace Chip8.Text

/-- The most digits that a number in base ten may have, leading zeros included. -/
def maxDecimalDigits : Nat := 4300

def digitValue? (base : Nat) (c : Char) : Option Nat :=
  let value :=
    if '0' ≤ c && c ≤ '9' then some (c.toNat - '0'.toNat)
    else if 'a' ≤ c && c ≤ 'z' then some (c.toNat - 'a'.toNat + 10)
    else if 'A' ≤ c && c ≤ 'Z' then some (c.toNat - 'A'.toNat + 10)
    else none
  value.filter (· < base)

/-- The digits of a number, of which neighbours may be separated by one low line. -/
def groupedDigits? (base : Nat) : List Char → Option (List Nat)
  | [] => none
  | [c] => (digitValue? base c).map ([·])
  | c :: '_' :: rest => do
    let digit ← digitValue? base c
    let digits ← groupedDigits? base rest
    some (digit :: digits)
  | c :: rest => do
    let digit ← digitValue? base c
    let digits ← groupedDigits? base rest
    some (digit :: digits)

/-- The digits of a block. Digits are put together by blocks, since a long row of digits is quicker
read as a row of long digits. -/
def blockSize : Nat := 512

/-- The number of a row of digits that is being read, in two parts. -/
structure DigitRow where
  /-- The number of the full blocks. -/
  high : Nat
  /-- The number of the block at hand. -/
  low : Nat
  /-- What the high part is to be multiplied by. -/
  weight : Nat
  /-- The digits of the block at hand. -/
  count : Nat
deriving DecidableEq, Repr

namespace DigitRow

def empty : DigitRow := ⟨0, 0, 1, 0⟩

def value (row : DigitRow) : Nat := row.high * row.weight + row.low

def push (base : Nat) (row : DigitRow) (digit : Nat) : DigitRow :=
  if row.count < blockSize then
    ⟨row.high, row.low * base + digit, row.weight * base, row.count + 1⟩
  else ⟨row.value, digit, base, 1⟩

/-- One more digit multiplies the number by the base and is added to it. -/
theorem value_push (base : Nat) (row : DigitRow) (digit : Nat) :
    (row.push base digit).value = row.value * base + digit := by
  unfold push
  split
  · simp only [value]
    rw [Nat.add_mul, Nat.mul_assoc, Nat.add_assoc]
  · rfl

/-- Many digits do so one after another. -/
theorem value_foldl_push (base : Nat) (digits : List Nat) (row : DigitRow) :
    (digits.foldl (push base) row).value =
      digits.foldl (fun value digit => value * base + digit) row.value := by
  induction digits generalizing row with
  | nil => rfl
  | cons digit digits ih => rw [List.foldl_cons, List.foldl_cons, ih, value_push]

end DigitRow

/-- The number that a row of digits denotes, first digit most significant. -/
def positionalValue (base : Nat) (digits : List Nat) : Nat :=
  (digits.foldl (DigitRow.push base) .empty).value

/-- The number grows by one digit at a time. -/
theorem positionalValue_eq_foldl (base : Nat) (digits : List Nat) :
    positionalValue base digits = digits.foldl (fun value digit => value * base + digit) 0 :=
  DigitRow.value_foldl_push base digits .empty

/-- The digits behind the marker of a base, if there is one. One low line may follow a marker. -/
def skipMarker (base : Nat) (cs : List Char) : List Char :=
  let behind (rest : List Char) : List Char := match rest with
    | '_' :: digits => digits
    | digits => digits
  match cs with
  | '0' :: 'x' :: rest => if base = 16 then behind rest else cs
  | '0' :: 'X' :: rest => if base = 16 then behind rest else cs
  | '0' :: 'b' :: rest => if base = 2 then behind rest else cs
  | '0' :: 'B' :: rest => if base = 2 then behind rest else cs
  | cs => cs

def readMagnitude? (base : Nat) (cs : List Char) : Option Nat := do
  let digits ← groupedDigits? base (skipMarker base cs)
  if base = 10 ∧ maxDecimalDigits < digits.length then none
  else some (positionalValue base digits)

def readInteger? (base : Nat) (cs : List Char) : Option Int :=
  match (trimBlanks cs).map asciiDigit with
  | '-' :: rest => (readMagnitude? base rest).map fun magnitude => -(magnitude : Int)
  | '+' :: rest => (readMagnitude? base rest).map fun magnitude => (magnitude : Int)
  | rest => (readMagnitude? base rest).map fun magnitude => (magnitude : Int)

/-- The number of bits that is enough for a number to have more than the most decimal digits. -/
def tooManyBits : Nat := 14285

/-- Whether a number has more digits in base ten than can be written. -/
def isTooLong (number : Int) : Bool :=
  tooManyBits ≤ number.natAbs.log2 || maxDecimalDigits < (Nat.toDigits 10 number.natAbs).length

def tooManyDigitsText (count : Nat) : String :=
  s!"Exceeds the limit ({maxDecimalDigits} digits) for integer string conversion: "
    ++ s!"value has {count} digits; use sys.set_int_max_str_digits() to increase the limit"

/-- The text that says that a number has too many digits to be written. -/
def tooLongText : String :=
  s!"Exceeds the limit ({maxDecimalDigits} digits) for integer string conversion; "
    ++ "use sys.set_int_max_str_digits() to increase the limit"

end Chip8.Text
