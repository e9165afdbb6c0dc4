import Chip8.Keypad
import Chip8.Settings.Conversion

/-! # Keymaps

Which key of the keypad a named key of the keyboard stands for.
-/

namespace Chip8

/-- The names of keyboard keys with the numbers of the keypad keys that they stand for, in the order
in which they were given. -/
abbrev Keymap := List (String × Int)

namespace Keymap

/-- The numeric keypad of a keyboard, its keys placed as on the keypad of the machine. -/
def standard : Keymap :=
  [("K_KP_PERIOD", 0x0), ("K_KP7", 0x1), ("K_KP8", 0x2), ("K_KP9", 0x3), ("K_KP4", 0x4),
    ("K_KP5", 0x5), ("K_KP6", 0x6), ("K_KP1", 0x7), ("K_KP2", 0x8), ("K_KP3", 0x9), ("K_KP0", 0xA),
    ("K_KP_ENTER", 0xB), ("K_KP_DIVIDE", 0xC), ("K_KP_MULTIPLY", 0xD), ("K_KP_MINUS", 0xE),
    ("K_KP_PLUS", 0xF)]

/-- The number of a key as a value gives it; text is read in base sixteen. -/
def numberOf : Toml.Value → Except SettingsError Int
  | .text text => Toml.Value.integerOfText 16 text
  | value => value.toInteger

/-- One entry of a keymap. The keypad must have the number. -/
def addressed (entry : String × Toml.Value) : Except SettingsError (String × Int) := do
  let number ← numberOf entry.2
  if (Key.ofNumber? number).isSome then .ok (entry.1, number)
  else if Text.isTooLong number then .error .keyTooLong
  else .error (.keyOutsideKeypad entry.1 number)

def ofEntries (entries : Toml.Entries) : Except SettingsError Keymap := entries.mapM addressed

end Keymap

end Chip8
