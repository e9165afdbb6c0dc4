import Chip8.Clock
import Chip8.Display
import Chip8.Instruction
import Chip8.Keypad
import Chip8.Memory
import Chip8.Random.MersenneTwister
import Chip8.Stack
import Chip8.Timers

/-! # The machine

The state of the whole machine and what one instruction does to it. Instructions keep the counter
and the index within sixteen bits, which is wider than an address; memory folds what they name into
the address space.

`Machine.next` fetches the word at the counter and performs it. A word that stands for no
instruction changes nothing but the counter.
-/

namespace Chip8

/-- The state of a machine. -/
structure Machine where
  memory : Memory
  registers : Registers
  /-- The address of the next instruction. -/
  counter : Int
  /-- The address that sprites, digits and register blocks are found at. -/
  index : Int
  stack : Stack
  display : Display
  keypad : Keypad
  timers : Timers
  generator : Random.MersenneTwister
  clock : Clock
  /-- Instructions per second. -/
  rate : Float
deriving Repr

namespace Machine

/-- The machine as it is when it has been started, with a given rate, edge mode and random source.
-/
def start (rate : Float) (edge : EdgeMode) (generator : Random.MersenneTwister) : Machine where
  memory := .fresh
  registers := .zero
  counter := programStart
  index := 0
  stack := .ofCapacity stackCapacity
  display := .dark edge
  keypad := .released
  timers := .stopped
  generator := generator
  clock := .zero
  rate := rate

/-- Starts the machine anew. The rate, the edge mode and the state of the random source stay. -/
def reset (machine : Machine) : Machine where
  memory := machine.memory.reset
  registers := .zero
  counter := programStart
  index := 0
  stack := machine.stack.cleared
  display := machine.display.cleared
  keypad := .released
  timers := .stopped
  generator := machine.generator
  clock := .zero
  rate := machine.rate

/-! ## Single instructions -/

def goTo (machine : Machine) (target : Address) : Machine :=
  { machine with counter := target.val }

/-- Leaves out the next instruction if a condition holds. -/
def skipIf (machine : Machine) (condition : Bool) : Machine :=
  if condition then { machine with counter := lowWord (machine.counter + 2) } else machine

def setRegister (machine : Machine) (x : Register) (byte : UInt8) : Machine :=
  { machine with registers := machine.registers.set x byte }

/-- Sets the flag by a test of the registers and then puts a result into a register. The result is
computed from the registers after the flag was set, so that it replaces the flag if it goes there.
-/
def setFlagged (machine : Machine) (x : Register) (test : Registers → Bool)
    (result : Registers → UInt8) : Machine :=
  let flagged := machine.registers.setFlag (test machine.registers)
  { machine with registers := flagged.set x (result flagged) }

/-- The hundreds, tens and ones of a byte. -/
def decimalDigits (byte : UInt8) : List UInt8 := [byte / 100 % 10, byte / 10 % 10, byte % 10]

def registersUpTo (x : Register) : List Register :=
  (List.finRange 16).filter fun register => register ≤ x

def execute (machine : Machine) : Instruction → Except Fault Machine
  | .hostRoutine _ => .ok machine
  | .clear => .ok { machine with display := machine.display.cleared }
  | .ret =>
    match machine.stack.pop? with
    | some (caller, stack) => .ok { machine with stack := stack, counter := caller.toNat }
    | none => .ok machine
  | .jump target => .ok (machine.goTo target)
  | .call target =>
    match machine.stack.push? (UInt16.ofInt machine.counter) with
    | some stack => .ok ({ machine with stack := stack }.goTo target)
    | none => .ok machine
  | .skipEqual x byte => .ok (machine.skipIf (machine.registers.get x == byte))
  | .skipDifferent x byte => .ok (machine.skipIf (machine.registers.get x != byte))
  | .skipSame x y => .ok (machine.skipIf (machine.registers.get x == machine.registers.get y))
  | .skipUnlike x y => .ok (machine.skipIf (machine.registers.get x != machine.registers.get y))
  | .assign x byte => .ok (machine.setRegister x byte)
  | .increase x byte => .ok (machine.setRegister x (machine.registers.get x + byte))
  | .copy x y => .ok (machine.setRegister x (machine.registers.get y))
  | .bitOr x y => .ok (machine.setRegister x (machine.registers.get x ||| machine.registers.get y))
  | .bitAnd x y => .ok (machine.setRegister x (machine.registers.get x &&& machine.registers.get y))
  | .bitXor x y => .ok (machine.setRegister x (machine.registers.get x ^^^ machine.registers.get y))
  | .add x y => .ok (machine.setFlagged x
      (fun v => 0xFF < (v.get x).toNat + (v.get y).toNat) (fun v => v.get x + v.get y))
  | .subtract x y => .ok (machine.setFlagged x
      (fun v => v.get y ≤ v.get x) (fun v => v.get x - v.get y))
  | .subtractFrom x y => .ok (machine.setFlagged x
      (fun v => v.get x ≤ v.get y) (fun v => v.get y - v.get x))
  | .shiftRight x => .ok (machine.setFlagged x
      (fun v => v.get x &&& 1 == 1) (fun v => v.get x >>> 1))
  | .shiftLeft x => .ok (machine.setFlagged x
      (fun v => v.get x &&& 0x80 == 0x80) (fun v => v.get x <<< 1))
  | .setIndex target => .ok { machine with index := target.val }
  | .jumpOffset target =>
    .ok { machine with counter := (machine.registers.get .first).toNat + target.val }
  | .random x mask =>
    let (byte, generator) := machine.generator.byte
    .ok ({ machine with generator := generator }.setRegister x (byte &&& mask))
  | .draw x y lines => do
    let sprite ← machine.memory.readBlock machine.index lines
    let drawing := machine.display.draw
      (machine.registers.get x).toNat (machine.registers.get y).toNat sprite
    match drawing.fault with
    | some fault => .error fault
    | none => .ok { machine with
        display := drawing.display
        registers := machine.registers.setFlag drawing.collision }
  | .skipPressed x =>
    .ok (machine.skipIf (machine.keypad.isPressed (machine.registers.get x).toNat))
  | .skipReleased x =>
    .ok (machine.skipIf (!machine.keypad.isPressed (machine.registers.get x).toNat))
  | .readDelay x => .ok (machine.setRegister x (UInt8.ofInt machine.timers.delay))
  | .awaitKey x =>
    match machine.keypad.await with
    | (some key, keypad) =>
      .ok ({ machine with keypad := keypad }.setRegister x (UInt8.ofNat key))
    -- The instruction is not done: the next cycle fetches it again.
    | (none, keypad) =>
      .ok { machine with keypad := keypad, counter := lowWord (machine.counter - 2) }
  | .setDelay x =>
    .ok { machine with timers := { machine.timers with delay := (machine.registers.get x).toNat } }
  | .setSound x =>
    .ok { machine with timers := { machine.timers with sound := (machine.registers.get x).toNat } }
  | .increaseIndex x =>
    .ok { machine with index := lowWord (machine.index + (machine.registers.get x).toNat) }
  | .indexGlyph x =>
    .ok { machine with
      index := (fontStart + (machine.registers.get x).toNat % 16 * glyphSize : Nat) }
  | .storeDecimal x => do
    let digits := decimalDigits (machine.registers.get x)
    .ok { machine with memory := ← machine.memory.writeBlock machine.index digits }
  | .storeRegisters x => do
    let bytes := (registersUpTo x).map machine.registers.get
    .ok { machine with memory := ← machine.memory.writeBlock machine.index bytes }
  | .loadRegisters x => do
    let bytes ← machine.memory.readBlock machine.index (x + 1)
    let loaded := ((registersUpTo x).zip bytes).foldl
      (fun registers (register, byte) => registers.set register byte) machine.registers
    .ok { machine with registers := loaded }

/-- What a word does: what its instruction does, or nothing if it stands for none. -/
def perform (machine : Machine) (word : Int) : Except Fault Machine :=
  match Instruction.decode? word with
  | some instruction => machine.execute instruction
  | none => .ok machine

/-- The word at the counter, and the machine with the counter moved past it. -/
def fetch (machine : Machine) : Except Fault (Nat × Machine) := do
  let high ← machine.memory.read machine.counter
  let low ← machine.memory.read (machine.counter + 1)
  .ok (high.toNat * 0x100 + low.toNat, { machine with counter := lowWord (machine.counter + 2) })

def next (machine : Machine) : Except Fault Machine := do
  let (word, machine) ← machine.fetch
  machine.perform word

/-! ## Keys and timers -/

def press (machine : Machine) (number : Int) : Machine :=
  { machine with keypad := machine.keypad.press number }

def release (machine : Machine) (number : Int) : Machine :=
  { machine with keypad := machine.keypad.release number }

def tick (machine : Machine) : Machine := { machine with timers := machine.timers.tick }

def soundActive (machine : Machine) : Bool := machine.timers.soundActive

/-! ## Loading a program -/

/-- Starts the machine anew with a program, unless the program is too large. -/
def loadProgram? (machine : Machine) (program : List UInt8) : Option Machine :=
  if program.length ≤ maxProgramSize then
    let machine := machine.reset
    some { machine with memory := machine.memory.load programStart program }
  else none

end Machine

end Chip8
