import Chip8.Numeric.Decimal
import Chip8.Numeric.WholePart
import Chip8.Settings.Error

/-! # Values as settings

How the values of a document are read as numbers, as truth values and as colours. A document may
give a number as text, and a truth value counts as zero or one.
-/

namespace Chip8

namespace Toml.Value

def integerOfText (base : Nat) (text : String) : Except SettingsError Int :=
  match Text.readInteger? base text.toList with
  | some number => .ok number
  | none => .error (.unreadableInteger base text)

/-- The value as a whole number; what lies behind the point is dropped. -/
def toInteger : Value → Except SettingsError Int
  | .boolean truth => .ok (if truth then 1 else 0)
  | .integer number => .ok number
  | .real number => (Numeric.wholePart number).mapError .noWholePart
  | .text written => integerOfText 10 written
  | value => .error (.notAnInteger value.kind)

def toReal : Value → Except SettingsError Float
  | .boolean truth => .ok (if truth then 1 else 0)
  | .integer number =>
    match Numeric.ofInteger? number with
    | some nearest => .ok nearest
    | none => .error .tooLarge
  | .real number => .ok number
  | .text written =>
    match Numeric.readReal? written.toList with
    | some number => .ok number
    | none => .error (.unreadableReal written)
  | value => .error (.notAReal value.kind)

/-- The value as a truth value: everything is true but no value, false, zero and what is empty. -/
def toTruth : Value → Bool
  | .null => false
  | .boolean truth => truth
  | .integer number => number != 0
  | .real number => number != 0
  | .text written => written != ""
  | .date | .dateTime | .time => true
  | .list items => !items.isEmpty
  | .table entries => !entries.isEmpty

end Toml.Value

/-- A colour by its red, green and blue parts, which are not restricted here. -/
structure Color where
  red : Int
  green : Int
  blue : Int
deriving DecidableEq, Repr

namespace Color

def white : Color := ⟨0xFF, 0xFF, 0xFF⟩

def black : Color := ⟨0x00, 0x00, 0x00⟩

/-- A colour whose parts are pairs of hexadecimal digits; number signs in front are ignored, and so
is what follows the third pair. -/
def ofText (text : String) : Except SettingsError Color := do
  let digits := text.toList.dropWhile (· == '#')
  let pair (start : Nat) : Except SettingsError Int :=
    Toml.Value.integerOfText 16 (String.ofList ((digits.drop start).take 2))
  .ok ⟨← pair 0, ← pair 2, ← pair 4⟩

def ofParts (parts : List Toml.Value) : Except SettingsError Color :=
  match parts with
  | [red, green, blue] => do .ok ⟨← red.toInteger, ← green.toInteger, ← blue.toInteger⟩
  | parts => .error (.wrongPartCount parts.length)

/-- The colour that a value denotes. Of a table the names of its entries count. -/
def ofValue : Toml.Value → Except SettingsError Color
  | .text text => ofText text
  | .list items => ofParts items
  | .table entries => ofParts (entries.map fun entry => .text entry.1)
  | value => .error (.withoutParts value.kind)

end Color

end Chip8
