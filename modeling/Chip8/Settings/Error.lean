import Chip8.Fault
import Chip8.Text.Encoding
import Chip8.Toml.Error
import Chip8.Toml.Value

/-! # Errors in settings

Why settings cannot be taken from a file, and how that is told to the user.
-/

namespace Chip8

/-- Why settings cannot be taken from a file. -/
inductive SettingsError where
  /-- The file is not text. -/
  | notText (error : Text.EncodingError)
  /-- The text is not a document. -/
  | malformed (error : Toml.Error) (document : String)
  /-- A text does not denote a whole number of the given base. -/
  | unreadableInteger (base : Nat) (text : String)
  /-- A text does not denote a number. -/
  | unreadableReal (text : String)
  /-- A number has no whole part. -/
  | noWholePart (fault : Fault)
  /-- A whole number is beyond the largest binary64 number. -/
  | tooLarge
  /-- A value of this kind is no whole number. -/
  | notAnInteger (kind : Toml.Kind)
  /-- A value of this kind is no number. -/
  | notAReal (kind : Toml.Kind)
  /-- A colour has another number of parts than three. -/
  | wrongPartCount (count : Nat)
  /-- A colour of this kind has no parts. -/
  | withoutParts (kind : Toml.Kind)
  /-- A value of this kind stands where a table is needed. -/
  | notATable (kind : Toml.Kind)
  /-- A key is mapped to a number that the keypad does not have. -/
  | keyOutsideKeypad (name : String) (number : Int)
  /-- A key is mapped to a number that the keypad does not have, and that is too long to be told. -/
  | keyTooLong
deriving DecidableEq, Repr

namespace SettingsError

/-- The number of digits that a text starts with, zero if they are not grouped as in a number. -/
def leadingDigits (text : String) : Nat :=
  let letters := (Text.trimBlanks text.toList).map Text.asciiDigit
  let unsigned := match letters with
    | '-' :: rest => rest
    | '+' :: rest => rest
    | rest => rest
  match Text.groupedDigits? 10 (unsigned.takeWhile fun c => c.isDigit || c == '_') with
  | some digits => digits.length
  | none => 0

def unreadableIntegerText (base : Nat) (text : String) : String :=
  let count := leadingDigits text
  if base = 10 ∧ Text.maxDecimalDigits < count then Text.tooManyDigitsText count
  else
    let shown := String.ofList ((Text.quoted text).toList.take 200)
    s!"invalid literal for int() with base {base}: {shown}"

def message : SettingsError → String
  | .notText error => error.message
  | .malformed error document => error.message document.toList
  | .unreadableInteger base text => unreadableIntegerText base text
  | .unreadableReal text => s!"could not convert string to float: {Text.quoted text}"
  | .noWholePart fault => fault.message
  | .tooLarge => "int too large to convert to float"
  | .notAnInteger kind =>
    s!"int() argument must be a string, a bytes-like object or a real number, not '{kind.name}'"
  | .notAReal kind => s!"float() argument must be a string or a real number, not '{kind.name}'"
  | .wrongPartCount count =>
    if count < 3 then s!"not enough values to unpack (expected 3, got {count})"
    else "too many values to unpack (expected 3)"
  | .withoutParts kind => s!"cannot unpack non-iterable {kind.name} object"
  | .notATable kind => s!"'{kind.name}' object has no attribute 'items'"
  | .keyOutsideKeypad name number => s!"Key {name} maps outside the keypad: {number}"
  | .keyTooLong => Text.tooLongText

end SettingsError

end Chip8
