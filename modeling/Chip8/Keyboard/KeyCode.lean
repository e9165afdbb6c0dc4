import Chip8.Keyboard.HostName

/-! # Key codes

The numbers by which the keys of a keyboard are reported. A key that types a character has the
number of that character; the others have a number by their place on the keyboard.
-/

namespace Chip8

abbrev KeyCode := Int

namespace KeyCode

def atPlace (place : Nat) : KeyCode := 0x40000000 + place

/-- The keys that have a name of their own. Some have several. -/
def named : List (String × KeyCode) :=
  [("K_UNKNOWN", 0), ("K_BACKSPACE", 8), ("K_TAB", 9), ("K_RETURN", 13), ("K_ESCAPE", 27),
    ("K_SPACE", 32), ("K_EXCLAIM", 33), ("K_QUOTEDBL", 34), ("K_HASH", 35), ("K_DOLLAR", 36),
    ("K_PERCENT", 37), ("K_AMPERSAND", 38), ("K_QUOTE", 39), ("K_LEFTPAREN", 40),
    ("K_RIGHTPAREN", 41), ("K_ASTERISK", 42), ("K_PLUS", 43), ("K_COMMA", 44), ("K_MINUS", 45),
    ("K_PERIOD", 46), ("K_SLASH", 47), ("K_COLON", 58), ("K_SEMICOLON", 59), ("K_LESS", 60),
    ("K_EQUALS", 61), ("K_GREATER", 62), ("K_QUESTION", 63), ("K_AT", 64), ("K_LEFTBRACKET", 91),
    ("K_BACKSLASH", 92), ("K_RIGHTBRACKET", 93), ("K_CARET", 94), ("K_UNDERSCORE", 95),
    ("K_BACKQUOTE", 96), ("K_DELETE", 127), ("K_CAPSLOCK", atPlace 57), ("K_F1", atPlace 58),
    ("K_F2", atPlace 59), ("K_F3", atPlace 60), ("K_F4", atPlace 61), ("K_F5", atPlace 62),
    ("K_F6", atPlace 63), ("K_F7", atPlace 64), ("K_F8", atPlace 65), ("K_F9", atPlace 66),
    ("K_F10", atPlace 67), ("K_F11", atPlace 68), ("K_F12", atPlace 69), ("K_PRINT", atPlace 70),
    ("K_PRINTSCREEN", atPlace 70), ("K_SCROLLOCK", atPlace 71), ("K_SCROLLLOCK", atPlace 71),
    ("K_PAUSE", atPlace 72), ("K_BREAK", atPlace 72), ("K_INSERT", atPlace 73),
    ("K_HOME", atPlace 74), ("K_PAGEUP", atPlace 75), ("K_END", atPlace 77),
    ("K_PAGEDOWN", atPlace 78), ("K_RIGHT", atPlace 79), ("K_LEFT", atPlace 80),
    ("K_DOWN", atPlace 81), ("K_UP", atPlace 82), ("K_NUMLOCK", atPlace 83),
    ("K_NUMLOCKCLEAR", atPlace 83), ("K_KP_DIVIDE", atPlace 84), ("K_KP_MULTIPLY", atPlace 85),
    ("K_KP_MINUS", atPlace 86), ("K_KP_PLUS", atPlace 87), ("K_KP_ENTER", atPlace 88),
    ("K_KP1", atPlace 89), ("K_KP_1", atPlace 89), ("K_KP2", atPlace 90), ("K_KP_2", atPlace 90),
    ("K_KP3", atPlace 91), ("K_KP_3", atPlace 91), ("K_KP4", atPlace 92), ("K_KP_4", atPlace 92),
    ("K_KP5", atPlace 93), ("K_KP_5", atPlace 93), ("K_KP6", atPlace 94), ("K_KP_6", atPlace 94),
    ("K_KP7", atPlace 95), ("K_KP_7", atPlace 95), ("K_KP8", atPlace 96), ("K_KP_8", atPlace 96),
    ("K_KP9", atPlace 97), ("K_KP_9", atPlace 97), ("K_KP0", atPlace 98), ("K_KP_0", atPlace 98),
    ("K_KP_PERIOD", atPlace 99), ("K_POWER", atPlace 102), ("K_KP_EQUALS", atPlace 103),
    ("K_F13", atPlace 104), ("K_F14", atPlace 105), ("K_F15", atPlace 106),
    ("K_HELP", atPlace 117), ("K_MENU", atPlace 118), ("K_SYSREQ", atPlace 154),
    ("K_CLEAR", atPlace 156), ("K_CURRENCYUNIT", atPlace 180), ("K_EURO", atPlace 180),
    ("K_CURRENCYSUBUNIT", atPlace 181), ("K_LCTRL", atPlace 224), ("K_LSHIFT", atPlace 225),
    ("K_LALT", atPlace 226), ("K_LGUI", atPlace 227), ("K_LMETA", atPlace 227),
    ("K_LSUPER", atPlace 227), ("K_RCTRL", atPlace 228), ("K_RSHIFT", atPlace 229),
    ("K_RALT", atPlace 230), ("K_RGUI", atPlace 231), ("K_RMETA", atPlace 231),
    ("K_RSUPER", atPlace 231), ("K_MODE", atPlace 257), ("K_AC_BACK", atPlace 270)]

def escape : KeyCode := 27

/-- The key that pauses the session and resumes it. -/
def pause : KeyCode := atPlace 62

/-- The key that executes one instruction of a paused session. -/
def step : KeyCode := atPlace 63

def restart : KeyCode := atPlace 69

/-- The number of a name. The keys of letters and digits are named by their characters, letters in
small. -/
def ofName? (name : String) : Option KeyCode :=
  match name.toList with
  | ['K', '_', c] =>
    if c.isDigit || ('a' ≤ c && c ≤ 'z') then some (c.toNat : Int) else none
  | _ => ((named ++ HostName.numbers).find? fun entry => entry.1 == name).map (·.2)

end KeyCode

end Chip8
