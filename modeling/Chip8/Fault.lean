import Chip8.Text.ByteSize

/-! # Faults

The reasons for which an operation of the machine or of its front end stops before it is done.
-/

namespace Chip8

/-- Why an operation stopped. -/
inductive Fault where
  /-- A position lies outside the cells it selects from. -/
  | indexOutOfRange
  /-- A quotient or a remainder by zero was asked for. -/
  | divisionByZero
  /-- An undefined number has no whole part. -/
  | undefinedNumber
  /-- An infinite number has no whole part. -/
  | infiniteNumber
  /-- A whole number is too large for the words that are to hold it. -/
  | numberTooLarge
  /-- A whole number is too large for a binary64 number to be near it. -/
  | beyondReals
  /-- A number of cells is negative. -/
  | negativeCount
  /-- A number of cells is too far from zero to count any. -/
  | uncountable
  /-- Samples are too many to be counted. -/
  | tooManySamples
  /-- The bytes of samples are too many to be counted. -/
  | tooManyBytes
  /-- There is no room for so many samples. -/
  | noRoom (samples : Nat)
  /-- The operation would go on forever. -/
  | endless
deriving DecidableEq, Repr

/-- A number of cells, which has to have no more than sixty-four bits with its sign. -/
def cellCount (number : Int) : Except Fault Int :=
  if -0x8000000000000000 ≤ number ∧ number < 0x8000000000000000 then .ok number
  else .error .uncountable

def Fault.message : Fault → String
  | .indexOutOfRange => "index out of range"
  | .divisionByZero => "float division by zero"
  | .undefinedNumber => "cannot convert float NaN to integer"
  | .infiniteNumber => "cannot convert float infinity to integer"
  | .numberTooLarge => "Python int too large to convert to C long"
  | .beyondReals => "int too large to convert to float"
  | .negativeCount => "negative count"
  | .uncountable => "cannot fit 'int' into an index-sized integer"
  | .tooManySamples => "Maximum allowed size exceeded"
  | .tooManyBytes =>
    "array is too big; `arr.size * arr.dtype.itemsize` is larger than the maximum possible size."
  | .noRoom samples =>
    let size := Text.byteSize (samples * 8)
    s!"Unable to allocate {size} for an array with shape ({samples},) and data type int64"
  | .endless => "the operation does not end"

end Chip8
