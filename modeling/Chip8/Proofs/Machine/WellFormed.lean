import Chip8.Machine
import Chip8.Proofs.Display.Landing
import Chip8.Proofs.Memory
import Chip8.Proofs.Stack

/-! # Well-formed machines

The ranges that all parts of a machine keep while it runs. Registers, keys and the entries of the
stack have their ranges from their types; what is left is the number of cells, the two address
registers, the timers and the size of the screen. Each of these is needed by another instruction:
the cells by every access to memory, the screen by sprites, the address registers by the accesses
that are folded.

`WellFormed.execute` is the step lemma: from a well-formed machine every instruction goes through
and leaves a well-formed machine.
-/

namespace Chip8.Machine

/-- A counter or an index that has no more than sixteen bits. -/
def IsWord (number : Int) : Prop := 0 ≤ number ∧ number ≤ 0xFFFF

/-- A count of a timer, which has no more than eight bits. -/
def IsCount (number : Int) : Prop := 0 ≤ number ∧ number ≤ 0xFF

/-- The ranges of the parts of a machine. -/
structure WellFormed (machine : Machine) : Prop where
  memory : machine.memory.Full
  counter : IsWord machine.counter
  index : IsWord machine.index
  stack : machine.stack.capacity = stackCapacity
  screen : machine.display.IsScreen
  delay : IsCount machine.timers.delay
  sound : IsCount machine.timers.sound

theorem isWord_lowWord (number : Int) : IsWord (lowWord number) := by
  unfold IsWord lowWord
  omega

theorem isWord_natCast {number : Nat} (bound : number < 0x10000) : IsWord number := by
  unfold IsWord
  omega

theorem isWord_address (target : Address) : IsWord (target.val : Int) :=
  isWord_natCast (by omega)

theorem isCount_byte (byte : UInt8) : IsCount (byte.toNat : Int) := by
  have := byte.toNat_lt
  unfold IsCount
  omega

theorem isCount_countDown {count : Int} (small : IsCount count) :
    IsCount (Timers.countDown count) := by
  unfold IsCount Timers.countDown at *
  split <;> omega

/-! ## The parts that instructions replace -/

section Parts

variable {machine : Machine}

theorem WellFormed.withCounter (well : machine.WellFormed) {counter : Int} (word : IsWord counter) :
    { machine with counter := counter }.WellFormed :=
  ⟨well.memory, word, well.index, well.stack, well.screen, well.delay, well.sound⟩

theorem WellFormed.withIndex (well : machine.WellFormed) {index : Int} (word : IsWord index) :
    { machine with index := index }.WellFormed :=
  ⟨well.memory, well.counter, word, well.stack, well.screen, well.delay, well.sound⟩

theorem WellFormed.withMemory (well : machine.WellFormed) {memory : Memory} (full : memory.Full) :
    { machine with memory := memory }.WellFormed :=
  ⟨full, well.counter, well.index, well.stack, well.screen, well.delay, well.sound⟩

theorem WellFormed.withStack (well : machine.WellFormed) {stack : Stack}
    (capacity : stack.capacity = stackCapacity) : { machine with stack := stack }.WellFormed :=
  ⟨well.memory, well.counter, well.index, capacity, well.screen, well.delay, well.sound⟩

theorem WellFormed.withDisplay (well : machine.WellFormed) {display : Display}
    (screen : display.IsScreen) : { machine with display := display }.WellFormed :=
  ⟨well.memory, well.counter, well.index, well.stack, screen, well.delay, well.sound⟩

theorem WellFormed.withTimers (well : machine.WellFormed) {timers : Timers}
    (delay : IsCount timers.delay) (sound : IsCount timers.sound) :
    { machine with timers := timers }.WellFormed :=
  ⟨well.memory, well.counter, well.index, well.stack, well.screen, delay, sound⟩

/-- Registers, keys, random numbers and the clock have no ranges of their own. -/
theorem WellFormed.withRest (well : machine.WellFormed) (registers : Registers) (keypad : Keypad)
    (generator : Random.MersenneTwister) (clock : Clock) :
    { machine with
      registers := registers, keypad := keypad,
      generator := generator, clock := clock }.WellFormed :=
  ⟨well.memory, well.counter, well.index, well.stack, well.screen, well.delay, well.sound⟩

theorem WellFormed.goTo (well : machine.WellFormed) (target : Address) :
    (machine.goTo target).WellFormed := well.withCounter (isWord_address target)

theorem WellFormed.skipIf (well : machine.WellFormed) (condition : Bool) :
    (machine.skipIf condition).WellFormed := by
  unfold Machine.skipIf
  split
  · exact well.withCounter (isWord_lowWord _)
  · exact well

theorem WellFormed.setRegister (well : machine.WellFormed) (x : Register) (byte : UInt8) :
    (machine.setRegister x byte).WellFormed := well.withRest _ _ _ _

theorem WellFormed.setFlagged (well : machine.WellFormed) (x : Register)
    (test : Registers → Bool) (result : Registers → UInt8) :
    (machine.setFlagged x test result).WellFormed := well.withRest _ _ _ _

theorem WellFormed.tick (well : machine.WellFormed) : machine.tick.WellFormed :=
  well.withTimers (isCount_countDown well.delay) (isCount_countDown well.sound)

end Parts

/-! ## Instructions -/

variable {machine : Machine}

def bytesAtIndex (machine : Machine) (count : Nat) : List UInt8 :=
  (List.range count).map fun (k : Nat) => machine.memory.byteAt (machine.index + k)

theorem length_bytesAtIndex (machine : Machine) (count : Nat) :
    (machine.bytesAtIndex count).length = count := by
  rw [bytesAtIndex, List.length_map, List.length_range]

theorem getElem?_bytesAtIndex {count k : Nat} {byte : UInt8} :
    (machine.bytesAtIndex count)[k]? = some byte ↔
      k < count ∧ machine.memory.byteAt (machine.index + k) = byte := by
  rw [bytesAtIndex, List.getElem?_map]
  by_cases inside : k < count
  · rw [List.getElem?_range inside]
    simp [inside]
  · rw [List.getElem?_eq_none (by rw [List.length_range]; omega)]
    simp [inside]

/-- The registers after those from 0 to `x` were loaded from the index. -/
def loadedRegisters (machine : Machine) (x : Register) : Registers :=
  ((registersUpTo x).zip (machine.bytesAtIndex (x + 1))).foldl
    (fun registers (register, byte) => registers.set register byte) machine.registers

/-- The sprite at the index drawn at the position in two registers. -/
def drawing (machine : Machine) (x y : Register) (lines : Nat) : Display.Drawing :=
  machine.display.draw (machine.registers.get x).toNat (machine.registers.get y).toNat
    (machine.bytesAtIndex lines)

/-- Drawing never fails: registers hold no negative numbers, so the corner of the sprite is on the
screen or beyond its right or lower edge. -/
theorem WellFormed.execute_draw (well : machine.WellFormed) (x y : Register) (lines : Fin 16) :
    machine.execute (.draw x y lines) = .ok { machine with
      display := (machine.drawing x y lines).display
      registers := machine.registers.setFlag (machine.drawing x y lines).collision } := by
  have fine : (machine.drawing x y lines).fault = none :=
    well.screen.draw_fault ..
  rw [drawing, bytesAtIndex] at fine
  simp only [Machine.execute, well.memory.covers.readBlock, bind, Except.bind, fine]
  rfl

/-- Loading registers never fails. -/
theorem WellFormed.execute_loadRegisters (well : machine.WellFormed) (x : Register) :
    machine.execute (.loadRegisters x) =
      .ok { machine with registers := machine.loadedRegisters x } := by
  simp only [Machine.execute, well.memory.covers.readBlock]
  rfl

/-- From a well-formed machine every instruction goes through. -/
theorem WellFormed.execute (well : machine.WellFormed) (instruction : Instruction) :
    ∃ after, machine.execute instruction = .ok after ∧ after.WellFormed := by
  cases instruction with
  | hostRoutine target => exact ⟨machine, rfl, well⟩
  | clear => exact ⟨_, rfl, well.withDisplay well.screen.cleared⟩
  | ret =>
    cases popped : machine.stack.pop? with
    | none => exact ⟨machine, by simp only [Machine.execute, popped], well⟩
    | some top =>
      obtain ⟨caller, stack⟩ := top
      refine ⟨_, by simp only [Machine.execute, popped]; rfl, ?_⟩
      have capacity : stack.capacity = stackCapacity :=
        (Stack.pop?_capacity popped).trans well.stack
      exact (well.withStack capacity).withCounter (isWord_natCast caller.toNat_lt)
  | jump target => exact ⟨_, rfl, well.goTo target⟩
  | call target =>
    cases pushed : machine.stack.push? (UInt16.ofInt machine.counter) with
    | none => exact ⟨machine, by simp only [Machine.execute, pushed], well⟩
    | some stack =>
      refine ⟨_, by simp only [Machine.execute, pushed]; rfl, ?_⟩
      have capacity : stack.capacity = stackCapacity :=
        (Stack.push?_capacity pushed).trans well.stack
      exact (well.withStack capacity).goTo target
  | skipEqual x byte | skipDifferent x byte => exact ⟨_, rfl, well.skipIf _⟩
  | skipSame x y | skipUnlike x y => exact ⟨_, rfl, well.skipIf _⟩
  | skipPressed x | skipReleased x => exact ⟨_, rfl, well.skipIf _⟩
  | assign x byte | increase x byte => exact ⟨_, rfl, well.setRegister x _⟩
  | copy x y | bitOr x y | bitAnd x y | bitXor x y => exact ⟨_, rfl, well.setRegister x _⟩
  | add x y | subtract x y | subtractFrom x y => exact ⟨_, rfl, well.setFlagged x _ _⟩
  | shiftRight x | shiftLeft x => exact ⟨_, rfl, well.setFlagged x _ _⟩
  | setIndex target => exact ⟨_, rfl, well.withIndex (isWord_address target)⟩
  | jumpOffset target =>
    -- The sum may pass the last address, but it has no more than thirteen bits.
    have byte := (machine.registers.get .first).toNat_lt
    refine ⟨_, rfl, well.withCounter ?_⟩
    unfold IsWord
    omega
  | random x mask => exact ⟨_, rfl, well.withRest _ _ _ _⟩
  | draw x y lines =>
    refine ⟨_, well.execute_draw x y lines, ?_⟩
    have screen : (machine.drawing x y lines).display.IsScreen :=
      (Display.draw_sameFrame ..).isScreen well.screen
    exact (well.withDisplay screen).withRest _ machine.keypad machine.generator machine.clock
  | readDelay x => exact ⟨_, rfl, well.setRegister x _⟩
  | awaitKey x =>
    rcases awaited : machine.keypad.await with ⟨key, keypad⟩
    cases key with
    | none =>
      refine ⟨_, by simp only [Machine.execute, awaited]; rfl, ?_⟩
      exact (well.withRest machine.registers keypad machine.generator machine.clock).withCounter
        (isWord_lowWord _)
    | some key =>
      refine ⟨_, by simp only [Machine.execute, awaited]; rfl, ?_⟩
      exact well.withRest _ keypad machine.generator machine.clock
  | setDelay x => exact ⟨_, rfl, well.withTimers (isCount_byte _) well.sound⟩
  | setSound x => exact ⟨_, rfl, well.withTimers well.delay (isCount_byte _)⟩
  | increaseIndex x => exact ⟨_, rfl, well.withIndex (isWord_lowWord _)⟩
  | indexGlyph x =>
    refine ⟨_, rfl, well.withIndex (isWord_natCast ?_)⟩
    simp only [fontStart, glyphSize]
    omega
  | storeDecimal x =>
    obtain ⟨memory, wrote, full⟩ := well.memory.writeBlock machine.index
      (decimalDigits (machine.registers.get x))
    refine ⟨_, ?_, well.withMemory full⟩
    simp only [Machine.execute, wrote]
    rfl
  | storeRegisters x =>
    obtain ⟨memory, wrote, full⟩ := well.memory.writeBlock machine.index
      ((registersUpTo x).map machine.registers.get)
    refine ⟨_, ?_, well.withMemory full⟩
    simp only [Machine.execute, wrote]
    rfl
  | loadRegisters x =>
    refine ⟨_, well.execute_loadRegisters x, ?_⟩
    exact well.withRest _ machine.keypad machine.generator machine.clock

/-- Whatever a word stands for, performing it goes through. -/
theorem WellFormed.perform (well : machine.WellFormed) (word : Int) :
    ∃ after, machine.perform word = .ok after ∧ after.WellFormed := by
  unfold Machine.perform
  cases Instruction.decode? word with
  | none => exact ⟨machine, rfl, well⟩
  | some instruction => exact well.execute instruction

def wordAtCounter (machine : Machine) : Nat :=
  (machine.memory.byteAt machine.counter).toNat * 0x100 +
    (machine.memory.byteAt (machine.counter + 1)).toNat

def pastWord (machine : Machine) : Machine :=
  { machine with counter := lowWord (machine.counter + 2) }

theorem WellFormed.pastWord (well : machine.WellFormed) : machine.pastWord.WellFormed :=
  well.withCounter (isWord_lowWord _)

/-- Fetching needs no more than a cell for every address. -/
theorem fetch_of_full (full : machine.memory.Full) :
    machine.fetch = .ok (machine.wordAtCounter, machine.pastWord) := by
  simp only [Machine.fetch, full.covers.read]
  rfl

/-- Fetching never fails. -/
theorem WellFormed.fetch (well : machine.WellFormed) :
    machine.fetch = .ok (machine.wordAtCounter, machine.pastWord) := fetch_of_full well.memory

/-- The word at the counter decides what the next instruction does. -/
theorem WellFormed.next_eq (well : machine.WellFormed) :
    machine.next = machine.pastWord.perform machine.wordAtCounter := by
  simp only [Machine.next, well.fetch]
  rfl

/-- The next instruction goes through, whatever stands at the counter. -/
theorem WellFormed.next (well : machine.WellFormed) :
    ∃ after, machine.next = .ok after ∧ after.WellFormed := by
  rw [well.next_eq]
  exact well.pastWord.perform machine.wordAtCounter

end Chip8.Machine
