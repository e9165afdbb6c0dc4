import Chip8.Text.Integer

/-! # Decimal numbers as binary64

A decimal number is a whole number of digits times a power of ten; it is rounded to the nearest
binary64 number, a tie to the even one. Texts may also name infinity and the undefined number, in
any mixture of small and capital letters.
-/

namespace Chip8.Numeric

/-- The power of ten beyond which every number is infinite or, when it divides, zero. -/
def extremePower : Nat := 400

/-- The binary64 number nearest to `digits * 10 ^ power`. -/
def ofDecimal (digits : Nat) (power : Int) : Float :=
  if digits = 0 then 0
  else if extremePower < power then 1 / 0
  else if power < -(extremePower + digits.log2 : Int) then 0
  else Float.ofScientific digits (power < 0) power.natAbs

/-- The binary64 number nearest to a whole number, unless it is too large to have one. -/
def ofInteger? (value : Int) : Option Float :=
  let nearest := Float.ofInt value
  if nearest.isInf then none else some nearest

/-- The characters without the low lines that separate two digits; other low lines are refused. -/
def ungroup? (previous : Char) : List Char → Option (List Char)
  | [] => some []
  | '_' :: next :: rest =>
    if previous.isDigit && next.isDigit then (ungroup? next rest).map (next :: ·) else none
  | '_' :: [] => none
  | c :: rest => (ungroup? c rest).map (c :: ·)

def digitsValue (digits : List Char) : Nat :=
  Text.positionalValue 10 (digits.map fun digit => digit.toNat - '0'.toNat)

/-- The power of ten behind the mark of an exponent; no exponent is the power zero. -/
def readExponent? (cs : List Char) : Option Int :=
  let unsigned? (digits : List Char) : Option Nat :=
    if digits.isEmpty || !digits.all Char.isDigit then none else some (digitsValue digits)
  match cs with
  | [] => some 0
  | mark :: rest =>
    if mark != 'e' && mark != 'E' then none
    else
      match rest with
      | '-' :: digits => (unsigned? digits).map fun power => -(power : Int)
      | '+' :: digits => (unsigned? digits).map fun power => (power : Int)
      | digits => (unsigned? digits).map fun power => (power : Int)

/-- The number that unsigned decimal digits with an optional point and exponent denote. -/
def readDecimal? (cs : List Char) : Option Float := do
  let whole := cs.takeWhile Char.isDigit
  let rest := cs.dropWhile Char.isDigit
  let (fraction, rest) := match rest with
    | '.' :: rest => (rest.takeWhile Char.isDigit, rest.dropWhile Char.isDigit)
    | rest => ([], rest)
  if whole.isEmpty && fraction.isEmpty then none
  else
    let power ← readExponent? rest
    some (ofDecimal (digitsValue (whole ++ fraction)) (power - fraction.length))

def readUnsigned? (cs : List Char) : Option Float :=
  let small := cs.map Char.toLower
  if small = ['i', 'n', 'f'] || small = ['i', 'n', 'f', 'i', 'n', 'i', 't', 'y'] then some (1 / 0)
  else if small = ['n', 'a', 'n'] then some (0 / 0)
  else readDecimal? cs

/-- The number that a text denotes. Blanks may surround it, and single low lines group its digits.
-/
def readReal? (cs : List Char) : Option Float := do
  let plain ← ungroup? ' ' ((Text.trimBlanks cs).map Text.asciiDigit)
  match plain with
  | '-' :: rest => (readUnsigned? rest).map fun magnitude => -magnitude
  | '+' :: rest => readUnsigned? rest
  | rest => readUnsigned? rest

end Chip8.Numeric
