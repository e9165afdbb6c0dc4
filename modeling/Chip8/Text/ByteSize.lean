/-! # Sizes in bytes

The size of something in bytes as a text: in the largest unit that it fills, with three digits, or
with all digits before the point if these are more.
-/

namespace Chip8.Text

/-- The names of the units, each 1024 times the one before. -/
def byteUnits : List String := ["bytes", "KiB", "MiB", "GiB", "TiB", "PiB", "EiB"]

/-- A quotient to the nearest whole number; a tie goes to the even one. -/
def roundedQuotient (number divisor : Nat) : Nat :=
  let below := number / divisor
  let rest := 2 * (number % divisor)
  if divisor < rest ∨ (rest = divisor ∧ below % 2 = 1) then below + 1 else below

/-- The number of a unit that a size fills, and how many bytes this unit has, from a unit on. A
quotient that is rounded to 1024 counts as one of the next unit. -/
def fillUnit (bytes : Nat) (unit : Nat) : List String → String × Nat
  | [] => ("", unit)
  | [name] => (name, unit)
  | name :: larger =>
    if roundedQuotient bytes unit < 1024 then (name, unit) else fillUnit bytes (1024 * unit) larger

/-- The digits of a quotient behind a point, filled up with zeros to a count. -/
def placesText (count value : Nat) : String :=
  let digits := Nat.toDigits 10 value
  String.ofList (List.replicate (count - digits.length) '0' ++ digits)

/-- A quotient with as many places behind the point as make three digits. -/
def threeDigits (number divisor : Nat) : String :=
  let hundredths := roundedQuotient (100 * number) divisor
  let tenths := roundedQuotient (10 * number) divisor
  if hundredths < 1000 then s!"{hundredths / 100}.{placesText 2 (hundredths % 100)}"
  else if tenths < 1000 then s!"{tenths / 10}.{placesText 1 (tenths % 10)}"
  else s!"{roundedQuotient number divisor}."

def byteSize (bytes : Nat) : String :=
  let (name, unit) := fillUnit bytes 1 byteUnits
  if unit = 1 then s!"{bytes} {name}" else s!"{threeDigits bytes unit} {name}"

end Chip8.Text
