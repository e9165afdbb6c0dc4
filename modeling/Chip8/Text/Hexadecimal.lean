/-! # Hexadecimal text

Whole numbers written in base sixteen, in the two styles that messages use: capital digits filled
up with zeros to a width, and small digits behind the marker that number literals have. Long numbers
are taken apart by blocks of digits first; `hexDigits_eq` says that this does not show.
-/

namespace Chip8.Text

/-- The last digits of a number in front of some others, a given count of them. -/
def lastDigits : Nat → Nat → List Char → List Char
  | 0, _, behind => behind
  | count + 1, number, behind =>
    lastDigits count (number / 16) (Nat.digitChar (number % 16) :: behind)

def digitsPerBlock : Nat := 512

def aboveBlock (number : Nat) : Nat := number >>> (4 * digitsPerBlock)

def lastBlock (number : Nat) : Nat := number % (1 <<< (4 * digitsPerBlock))

/-- A number that has digits before its last block is greater than what they denote. -/
theorem aboveBlock_lt {number : Nat} (h : aboveBlock number ≠ 0) : aboveBlock number < number := by
  have positive : 0 < number := by
    apply Nat.pos_of_ne_zero
    intro zero
    exact h (by simp [aboveBlock, zero])
  rw [aboveBlock, Nat.shiftRight_eq_div_pow]
  exact Nat.div_lt_self positive (Nat.one_lt_two_pow (by simp [digitsPerBlock]))

/-- The digits of a number in front of some others. -/
def hexDigitsBefore (number : Nat) (behind : List Char) : List Char :=
  if _short : aboveBlock number = 0 then Nat.toDigits 16 number ++ behind
  else
    hexDigitsBefore (aboveBlock number) (lastDigits digitsPerBlock (lastBlock number) behind)
termination_by number
decreasing_by exact aboveBlock_lt _short

def hexDigits (number : Nat) : List Char := hexDigitsBefore number []

/-- A digit in base sixteen takes four bits. -/
theorem two_pow_four_mul (count : Nat) : Nat.pow 2 (4 * count) = Nat.pow 16 count :=
  Nat.pow_mul 2 4 count

/-- A number without some of its last digits. -/
theorem shiftRight_digits (number count : Nat) :
    number >>> (4 * count) = number / Nat.pow 16 count := by
  rw [Nat.shiftRight_eq_div_pow]
  exact congrArg (number / ·) (two_pow_four_mul count)

/-- What some of the last digits of a number denote. -/
theorem mod_shiftLeft_digits (number count : Nat) :
    number % (1 <<< (4 * count)) = number % Nat.pow 16 count := by
  rw [Nat.shiftLeft_eq, Nat.one_mul]
  exact congrArg (number % ·) (two_pow_four_mul count)

/-- The last digits of a number do not depend on those before them. -/
theorem lastDigits_mod (count number : Nat) (behind : List Char) :
    lastDigits count (number % Nat.pow 16 count) behind = lastDigits count number behind := by
  induction count generalizing number behind with
  | zero => rfl
  | succ count ih =>
    have above : number % Nat.pow 16 (count + 1) / 16 = number / 16 % Nat.pow 16 count := by
      rw [Nat.pow_eq, Nat.pow_succ', Nat.mod_mul_right_div_self]
      rfl
    have last : number % Nat.pow 16 (count + 1) % 16 = number % 16 := by
      rw [Nat.pow_eq, Nat.pow_succ', Nat.mod_mul_right_mod]
    rw [lastDigits, lastDigits, above, last, ih]

/-- The digits of a number are those before its last ones and these. -/
theorem toDigits_append_lastDigits (count number : Nat) (behind : List Char)
    (h : number / Nat.pow 16 count ≠ 0) :
    Nat.toDigits 16 (number / Nat.pow 16 count) ++ lastDigits count number behind =
      Nat.toDigits 16 number ++ behind := by
  induction count generalizing number behind with
  | zero => simp [lastDigits]
  | succ count ih =>
    have quotient : number / Nat.pow 16 (count + 1) = number / 16 / Nat.pow 16 count := by
      rw [Nat.pow_eq, Nat.pow_succ', Nat.div_div_eq_div_mul]
      rfl
    rw [quotient] at h
    have large : 16 ≤ number := by
      apply Nat.le_of_not_lt
      intro small
      rw [Nat.div_eq_of_lt small, Nat.zero_div] at h
      exact h rfl
    rw [quotient, lastDigits, ih _ _ h, Nat.toDigits_of_base_le (by decide) large,
      List.append_assoc, List.singleton_append]

/-- Blocks do not change the digits. -/
theorem hexDigitsBefore_eq (number : Nat) (behind : List Char) :
    hexDigitsBefore number behind = Nat.toDigits 16 number ++ behind := by
  fun_induction hexDigitsBefore number behind with
  | case1 => rfl
  | case2 number behind long ih =>
    rw [aboveBlock, shiftRight_digits] at long
    rw [ih, aboveBlock, lastBlock, shiftRight_digits, mod_shiftLeft_digits, lastDigits_mod,
      toDigits_append_lastDigits _ _ _ long]

/-- The digits are those of base sixteen. -/
theorem hexDigits_eq (number : Nat) : hexDigits number = Nat.toDigits 16 number := by
  rw [hexDigits, hexDigitsBefore_eq, List.append_nil]

def signText (value : Int) : String := if value < 0 then "-" else ""

/-- The number in capital digits, with zeros after the sign up to `width` characters in all. -/
def upperHex (width : Nat) (value : Int) : String :=
  let sign := signText value
  let digits := (hexDigits value.natAbs).map Char.toUpper
  sign ++ String.ofList (List.replicate (width - sign.length - digits.length) '0' ++ digits)

/-- The number in small digits behind the marker `0x`. -/
def lowerHex (value : Int) : String :=
  signText value ++ "0x" ++ String.ofList (hexDigits value.natAbs)

end Chip8.Text
