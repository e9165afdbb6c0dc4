import Chip8.Keyboard.KeyCode
import Chip8.Machine
import Chip8.Settings.Keymap

/-! # The keyboard

Hands the moves of keyboard keys on to the keypad. Keys that the keymap does not mention, and names
that have no number, are left out.
-/

namespace Chip8

/-- How a key moves. -/
inductive KeyMove where
  | down
  | up
deriving DecidableEq, Repr

/-- The numbers on the keypad by the codes of keyboard keys, each code once. -/
structure Keyboard where
  keys : List (KeyCode × Int)
deriving DecidableEq, Repr

namespace Keyboard

/-- The keyboard on which a code stands for a number, whatever it stood for before. -/
def assign (keyboard : Keyboard) (code : KeyCode) (number : Int) : Keyboard :=
  ⟨keyboard.keys.filter (fun key => key.1 != code) ++ [(code, number)]⟩

/-- The keyboard of a keymap. Of two names of one key the later counts. -/
def ofKeymap (keymap : Keymap) : Keyboard :=
  keymap.foldl
    (fun keyboard entry =>
      match KeyCode.ofName? entry.1 with
      | some code => keyboard.assign code entry.2
      | none => keyboard)
    ⟨[]⟩

/-- Whether a name has a number or is that of something else. -/
def isKnown (name : String) : Bool :=
  (KeyCode.ofName? name).isSome || HostName.things.contains name

def keymapNotices (keymap : Keymap) : List Notice :=
  (keymap.filter fun entry => !isKnown entry.1).map fun entry =>
    ⟨.warning, s!"Unknown pygame key {entry.1}, not mapped"⟩

def numberOf? (keyboard : Keyboard) (code : KeyCode) : Option Int :=
  (keyboard.keys.find? fun key => key.1 == code).map (·.2)

def handle (keyboard : Keyboard) (machine : Machine) (move : KeyMove) (code : KeyCode) : Machine :=
  match keyboard.numberOf? code, move with
  | none, _ => machine
  | some number, .down => machine.press number
  | some number, .up => machine.release number

def handleNotices (keyboard : Keyboard) (move : KeyMove) (code : KeyCode) : List Notice :=
  match keyboard.numberOf? code, move with
  | none, _ => []
  | some number, .down => Keypad.pressNotices number
  | some number, .up => Keypad.releaseNotices number

end Keyboard

end Chip8
