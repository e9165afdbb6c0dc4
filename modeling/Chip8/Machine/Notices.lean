import Chip8.Machine
import Chip8.Text.Hexadecimal

/-! # What a machine reports

The notices that go with instructions, loads and single steps. Each is computed from the state in
which it arises, so that the state of the machine holds no report.
-/

namespace Chip8.Machine

open Chip8.Text

/-- What there is to report about a word that is about to be performed. -/
def wordNotices (machine : Machine) (word : Int) : List Notice :=
  match Instruction.decode? word with
  | none => [⟨.warning, s!"Invalid opcode: {upperHex 4 word}"⟩]
  | some (.hostRoutine target) =>
    [⟨.debug, s!"Ignoring machine code call {upperHex 3 (target.val : Int)}"⟩]
  | some (.call _) => machine.stack.pushNotices machine.counter
  | some .ret => machine.stack.popNotices
  | some _ => []

def loadNotices (program : List UInt8) : List Notice :=
  let size := program.length
  if size ≤ maxProgramSize then
    [⟨.info, s!"Loaded {size} bytes at {upperHex 3 (programStart : Int)}"⟩]
  else [⟨.error, s!"ROM too large to fit in memory: {size} > {maxProgramSize} bytes"⟩]

/-- The counter, the index, the stack depth, the timers and the registers in one line. -/
def dumpNotice (machine : Machine) : Notice :=
  let state := [("PC", machine.counter), ("I", machine.index),
    ("SP", machine.stack.depth), ("DT", machine.timers.delay), ("ST", machine.timers.sound)]
  let stateTexts := state.map fun (name, value) => s!"{name}:{upperHex 0 value}"
  let registerTexts := machine.registers.toList.zipIdx.map fun (byte, (number : Nat)) =>
    s!"V{upperHex 0 number}:{upperHex 2 byte.toNat}"
  ⟨.debug, " ".intercalate (stateTexts ++ registerTexts)⟩

end Chip8.Machine
