import Chip8.Proofs.Machine.HostCalls
import Chip8.Proofs.Registers

/-! # What instructions may change

Every instruction has its purpose, and with it a few parts of the machine that it may change: its
footprint. The table `Instruction.footprint` says for each of them which registers, how many cells
from the index on, and which of the other parts these are. Whatever an instruction does stays within
its footprint (`execute_changesWithin`), and a word that stands for no instruction changes nothing
at all (`perform_changes_only_footprint`). No footprint has room for the keys that are down, the key
that was captured, the clock, the rate, or the sides and the edge mode of the screen.
-/

namespace Chip8

/-- The parts of a machine that may change. -/
structure Footprint where
  registers : List Register := []
  /-- The number of cells, of which the first is the one at the index. -/
  cells : Nat := 0
  counter : Bool := false
  index : Bool := false
  stack : Bool := false
  display : Bool := false
  delay : Bool := false
  sound : Bool := false
  wait : Bool := false
  generator : Bool := false
deriving DecidableEq, Repr

/-- The parts that an instruction is there to change. -/
def Instruction.footprint : Instruction → Footprint
  | .hostRoutine _ => {}
  | .clear => { display := true }
  | .ret | .call _ => { stack := true, counter := true }
  | .jump _ | .jumpOffset _ => { counter := true }
  | .skipEqual _ _ | .skipDifferent _ _ | .skipSame _ _ | .skipUnlike _ _ => { counter := true }
  | .skipPressed _ | .skipReleased _ => { counter := true }
  | .assign x _ | .increase x _ | .copy x _ => { registers := [x] }
  | .bitOr x _ | .bitAnd x _ | .bitXor x _ => { registers := [x] }
  | .add x _ | .subtract x _ | .subtractFrom x _ => { registers := [x, .flag] }
  | .shiftRight x | .shiftLeft x => { registers := [x, .flag] }
  | .setIndex _ | .increaseIndex _ | .indexGlyph _ => { index := true }
  | .random x _ => { registers := [x], generator := true }
  | .draw _ _ _ => { registers := [.flag], display := true }
  | .readDelay x => { registers := [x] }
  | .awaitKey x => { registers := [x], wait := true, counter := true }
  | .setDelay _ => { delay := true }
  | .setSound _ => { sound := true }
  | .storeDecimal _ => { cells := 3 }
  | .storeRegisters x => { cells := x + 1 }
  | .loadRegisters x => { registers := Machine.registersUpTo x }

namespace Machine

variable {machine before after : Machine} {instruction : Instruction} {footprint : Footprint}

/-- Two machines that differ at most in the parts of a footprint. -/
structure ChangesWithin (footprint : Footprint) (before after : Machine) : Prop where
  registers : ∀ register ∉ footprint.registers,
    after.registers.get register = before.registers.get register
  memory : ∀ cell, (∀ k : Nat, k < footprint.cells → cell ≠ Memory.fold (before.index + k)) →
    after.memory.cells[cell]? = before.memory.cells[cell]?
  counter : footprint.counter = false → after.counter = before.counter
  index : footprint.index = false → after.index = before.index
  stack : footprint.stack = false → after.stack = before.stack
  display : footprint.display = false → after.display = before.display
  frame : Display.SameFrame before.display after.display
  delay : footprint.delay = false → after.timers.delay = before.timers.delay
  sound : footprint.sound = false → after.timers.sound = before.timers.sound
  wait : footprint.wait = false → after.keypad.wait = before.keypad.wait
  keys : after.keypad.keys = before.keypad.keys
  received : after.keypad.received = before.keypad.received
  generator : footprint.generator = false → after.generator = before.generator
  clock : after.clock = before.clock
  rate : after.rate = before.rate

namespace ChangesWithin

theorem refl (footprint : Footprint) (machine : Machine) :
    ChangesWithin footprint machine machine where
  registers _ _ := rfl
  memory _ _ := rfl
  counter _ := rfl
  index _ := rfl
  stack _ := rfl
  display _ := rfl
  frame := .refl _
  delay _ := rfl
  sound _ := rfl
  wait _ := rfl
  keys := rfl
  received := rfl
  generator _ := rfl
  clock := rfl
  rate := rfl

/-- All that may change of a keypad is the wait for a key. -/
theorem keypad (within : ChangesWithin footprint before after) (unlisted : footprint.wait = false) :
    after.keypad = before.keypad := by
  calc after.keypad
      = ⟨after.keypad.keys, after.keypad.wait, after.keypad.received⟩ := rfl
    _ = before.keypad := by rw [within.keys, within.wait unlisted, within.received]

/-! ## Changing one more part -/

theorem withCounter (within : ChangesWithin footprint before after)
    (listed : footprint.counter = true) (counter : Int) :
    ChangesWithin footprint before { after with counter := counter } :=
  { within with counter := by simp [listed] }

theorem withIndex (within : ChangesWithin footprint before after)
    (listed : footprint.index = true) (index : Int) :
    ChangesWithin footprint before { after with index := index } :=
  { within with index := by simp [listed] }

theorem withStack (within : ChangesWithin footprint before after)
    (listed : footprint.stack = true) (stack : Stack) :
    ChangesWithin footprint before { after with stack := stack } :=
  { within with stack := by simp [listed] }

theorem withDisplay (within : ChangesWithin footprint before after)
    (listed : footprint.display = true) {display : Display}
    (frame : Display.SameFrame before.display display) :
    ChangesWithin footprint before { after with display := display } :=
  { within with display := by simp [listed], frame := frame }

theorem withDelay (within : ChangesWithin footprint before after)
    (listed : footprint.delay = true) (delay : Int) :
    ChangesWithin footprint before { after with timers := { after.timers with delay := delay } } :=
  { within with delay := by simp [listed] }

theorem withSound (within : ChangesWithin footprint before after)
    (listed : footprint.sound = true) (sound : Int) :
    ChangesWithin footprint before { after with timers := { after.timers with sound := sound } } :=
  { within with sound := by simp [listed] }

theorem withWait (within : ChangesWithin footprint before after)
    (listed : footprint.wait = true) (wait : KeyWait) :
    ChangesWithin footprint before { after with keypad := { after.keypad with wait := wait } } :=
  { within with wait := by simp [listed] }

theorem withGenerator (within : ChangesWithin footprint before after)
    (listed : footprint.generator = true) (generator : Random.MersenneTwister) :
    ChangesWithin footprint before { after with generator := generator } :=
  { within with generator := by simp [listed] }

theorem withMemory (within : ChangesWithin footprint before after) {memory : Memory}
    (stored : ∀ cell, (∀ k : Nat, k < footprint.cells → cell ≠ Memory.fold (before.index + k)) →
      memory.cells[cell]? = before.memory.cells[cell]?) :
    ChangesWithin footprint before { after with memory := memory } :=
  { within with memory := stored }

theorem withRegisters (within : ChangesWithin footprint before after) {registers : Registers}
    (written : ∀ register ∉ footprint.registers,
      registers.get register = before.registers.get register) :
    ChangesWithin footprint before { after with registers := registers } :=
  { within with registers := written }

theorem setRegister (within : ChangesWithin footprint before after) {x : Register}
    (listed : x ∈ footprint.registers) (byte : UInt8) :
    ChangesWithin footprint before (after.setRegister x byte) := by
  apply within.withRegisters
  intro register unlisted
  have apart : register ≠ x := fun same => unlisted (same ▸ listed)
  rw [Registers.get_set_of_ne _ _ apart]
  exact within.registers register unlisted

theorem setFlagged {x : Register} (listed : footprint.registers = [x, .flag])
    (test : Registers → Bool) (result : Registers → UInt8) :
    ChangesWithin footprint machine (machine.setFlagged x test result) := by
  apply (refl footprint machine).withRegisters
  intro register unlisted
  rw [listed, List.mem_cons, List.mem_singleton, not_or] at unlisted
  obtain ⟨apart, noFlag⟩ := unlisted
  rw [Registers.get_set_of_ne _ _ apart, Registers.get_setFlag_of_ne _ _ noFlag]

theorem skipIf (listed : footprint.counter = true) (condition : Bool) :
    ChangesWithin footprint machine (machine.skipIf condition) := by
  unfold Machine.skipIf
  split
  · exact (refl _ _).withCounter listed _
  · exact refl _ _

end ChangesWithin

/-! ## Instructions -/

theorem length_registersUpTo (x : Register) : (registersUpTo x).length = x + 1 := by
  revert x
  decide

/-- The registers that a load writes are those that it is told to. -/
theorem changesWithin_load {x : Register} (listed : footprint.registers = registersUpTo x)
    (bytes : List UInt8) :
    ChangesWithin footprint machine { machine with
      registers := ((registersUpTo x).zip bytes).foldl
        (fun registers (register, byte) => registers.set register byte) machine.registers } := by
  apply (ChangesWithin.refl footprint machine).withRegisters
  intro register unlisted
  apply Registers.get_foldl_set
  intro named
  obtain ⟨⟨x, byte⟩, member, rfl⟩ := List.mem_map.mp named
  rw [listed] at unlisted
  exact unlisted (List.of_mem_zip member).1

/-- The cells that a block of bytes at the index is stored in. -/
theorem changesWithin_store {bytes : List UInt8} {memory : Memory}
    (listed : footprint.cells = bytes.length)
    (stored : machine.memory.writeBlock machine.index bytes = .ok memory) :
    ChangesWithin footprint machine { machine with memory := memory } := by
  apply (ChangesWithin.refl footprint machine).withMemory
  intro cell other
  rw [listed] at other
  exact Memory.getElem?_writeBlock stored other

/-- An instruction changes nothing outside its footprint. -/
theorem execute_changesWithin (went : machine.execute instruction = .ok after) :
    ChangesWithin instruction.footprint machine after := by
  have same := ChangesWithin.refl instruction.footprint machine
  cases instruction with
  | hostRoutine target =>
    cases went
    exact same
  | clear =>
    cases went
    exact same.withDisplay rfl ⟨rfl, rfl, rfl, Array.size_replicate⟩
  | ret =>
    dsimp only [execute] at went
    split at went
    · rename_i caller stack _
      cases went
      exact (same.withStack rfl stack).withCounter rfl caller.toNat
    · cases went
      exact same
  | call target =>
    dsimp only [execute] at went
    split at went
    · rename_i stack _
      cases went
      exact (same.withStack rfl stack).withCounter rfl target.val
    · cases went
      exact same
  | jump target | jumpOffset target =>
    cases went
    exact same.withCounter rfl _
  | skipEqual | skipDifferent | skipSame | skipUnlike | skipPressed | skipReleased =>
    cases went
    exact .skipIf rfl _
  | assign x | increase x | copy x | bitOr x | bitAnd x | bitXor x | readDelay x =>
    cases went
    exact same.setRegister (List.mem_singleton_self x) _
  | add | subtract | subtractFrom | shiftRight | shiftLeft =>
    cases went
    exact .setFlagged rfl _ _
  | setIndex | increaseIndex | indexGlyph =>
    cases went
    exact same.withIndex rfl _
  | random x mask =>
    cases went
    exact (same.withGenerator rfl _).setRegister (List.mem_singleton_self x) _
  | draw x y lines =>
    obtain ⟨sprite, _, drawn⟩ := Outcome.bind_eq_ok.mp went
    dsimp only at drawn
    split at drawn
    · contradiction
    · cases drawn
      -- The flag is set in the machine that has the new picture already.
      have picture := same.withDisplay rfl (Display.draw_sameFrame machine.display
        (machine.registers.get x).toNat (machine.registers.get y).toNat sprite)
      exact picture.setRegister (List.mem_singleton_self _) _
  | awaitKey x =>
    dsimp only [execute, Keypad.await] at went
    split at went
    · rename_i key keypad awaited
      split at awaited <;> cases awaited
      cases went
      exact (same.withWait rfl .idle).setRegister (List.mem_singleton_self x) _
    · rename_i keypad awaited
      split at awaited <;> cases awaited
      cases went
      exact (same.withWait rfl .waiting).withCounter rfl _
  | setDelay x =>
    cases went
    exact same.withDelay rfl _
  | setSound x =>
    cases went
    exact same.withSound rfl _
  | storeDecimal x =>
    obtain ⟨memory, stored, done⟩ := Outcome.bind_eq_ok.mp went
    cases done
    exact changesWithin_store rfl stored
  | storeRegisters x =>
    obtain ⟨memory, stored, done⟩ := Outcome.bind_eq_ok.mp went
    cases done
    refine changesWithin_store ?_ stored
    rw [List.length_map, length_registersUpTo]
    rfl
  | loadRegisters x =>
    obtain ⟨bytes, _, done⟩ := Outcome.bind_eq_ok.mp went
    cases done
    exact changesWithin_load rfl bytes

/-- Whatever number a well-formed machine is given to perform, it goes through, and nothing changes
but what the instruction that the number stands for is there to change. -/
theorem perform_changes_only_footprint (well : machine.WellFormed) (word : Int) :
    ∃ after, machine.perform word = .ok after ∧
      (Instruction.decode? word = none → after = machine) ∧
      ∀ instruction, Instruction.decode? word = some instruction →
        ChangesWithin instruction.footprint machine after := by
  obtain ⟨after, went, _⟩ := well.perform word
  refine ⟨after, went, ?_, ?_⟩
  · intro unknown
    rw [perform, unknown] at went
    cases went
    rfl
  · intro instruction known
    rw [perform, known] at went
    exact execute_changesWithin went

/-- A machine whose index stands two cells before the end of memory. -/
def nearMemoryEnd : Machine := { start 500 .clip (.ofSeed 0) with index := 0xFFE }

/-- Four registers stored there, by a number that is not in the range of words, continue at the
first cells, and no other cell changes. -/
theorem nearMemoryEnd_stores_around :
    nearMemoryEnd.WellFormed ∧ Instruction.decode? (0xF355 - 0x30000) = some (.storeRegisters 3) ∧
      ∃ after, nearMemoryEnd.perform (0xF355 - 0x30000) = .ok after ∧
        after.registers.get .flag = nearMemoryEnd.registers.get .flag ∧
        ∀ cell, cell ∉ [0xFFE, 0xFFF, 0x000, 0x001] →
          after.memory.cells[cell]? = nearMemoryEnd.memory.cells[cell]? := by
  have well : nearMemoryEnd.WellFormed :=
    (wellFormed_start 500 .clip (.ofSeed 0)).withIndex (isWord_natCast (by decide))
  have stores : Instruction.decode? (0xF355 - 0x30000) = some (.storeRegisters 3) := by decide
  obtain ⟨after, went, _, within⟩ := perform_changes_only_footprint well (0xF355 - 0x30000)
  have four := within _ stores
  refine ⟨well, stores, after, went, four.registers _ List.not_mem_nil, ?_⟩
  intro cell other
  apply four.memory
  intro k inside same
  apply other
  have places : ∀ k : Nat, k < 4 →
      Memory.fold (0xFFE + (k : Int)) ∈ [0xFFE, 0xFFF, 0x000, 0x001] := by
    decide
  rw [same]
  exact places k inside

end Machine

end Chip8
