import Chip8.Notice

/-! # Keypad

Sixteen keys and the state of the wait for a key. A wait that finds no captured key starts waiting;
the first press of a key while waiting is captured and handed out by the next wait. Releases never
touch the wait.
-/

namespace Chip8

/-- The number of a key. -/
abbrev Key := Fin 16

def Key.ofNumber? (number : Int) : Option Key :=
  if 0 ≤ number ∧ number < 16 then some (Fin.ofNat 16 number.toNat) else none

/-- Where the wait for a key stands. -/
inductive KeyWait where
  /-- Nobody waits. -/
  | idle
  /-- A wait was asked for and no key has been pressed since. -/
  | waiting
  /-- A key was pressed during the wait and is to be handed out. -/
  | captured
deriving DecidableEq, Repr

/-- Which keys are down, the state of the wait, and the key that was captured last. -/
structure Keypad where
  keys : Vector Bool 16
  wait : KeyWait
  received : Key
deriving DecidableEq, Repr

namespace Keypad

/-- All keys up and nobody waiting. -/
def released : Keypad := ⟨Vector.replicate 16 false, .idle, 0⟩

/-- Whether a key of any number is down; numbers without a key never are. -/
def isPressed (keypad : Keypad) (number : Int) : Bool :=
  match Key.ofNumber? number with
  | some key => keypad.keys[key]
  | none => false

/-- A key goes down, and is captured if a wait is on. Numbers without a key change nothing. -/
def press (keypad : Keypad) (number : Int) : Keypad :=
  match Key.ofNumber? number with
  | none => keypad
  | some key =>
    let down := { keypad with keys := keypad.keys.set key true }
    if keypad.wait = .waiting then { down with wait := .captured, received := key } else down

/-- A key goes up. Numbers without a key change nothing. -/
def release (keypad : Keypad) (number : Int) : Keypad :=
  match Key.ofNumber? number with
  | none => keypad
  | some key => { keypad with keys := keypad.keys.set key false }

/-- Hands out the captured key and ends the wait, or goes on waiting. -/
def await (keypad : Keypad) : Option Key × Keypad :=
  if keypad.wait = .captured then (some keypad.received, { keypad with wait := .idle })
  else (none, { keypad with wait := .waiting })

/-- The keys that are down, in ascending order. -/
def down (keypad : Keypad) : List Key :=
  (List.finRange 16).filter fun key => keypad.keys[key]

def pressNotices (number : Int) : List Notice :=
  if (Key.ofNumber? number).isSome then []
  else [⟨.warning, s!"Ignoring press of unknown key {number}"⟩]

def releaseNotices (number : Int) : List Notice :=
  if (Key.ofNumber? number).isSome then []
  else [⟨.warning, s!"Ignoring release of unknown key {number}"⟩]

end Keypad

end Chip8
