import Chip8.Proofs.Machine.Course
import Chip8.Proofs.Machine.Frame

/-! # Waiting for a key

An instruction that waits for a key and has none takes the counter back to itself. So while the wait
is on, the instruction at the counter is that wait, whatever happens to the machine
(`keptByHost_waitsAtCounter`). Until a key is captured the instruction changes nothing; the first
key that is captured is handed to it and to no other instruction (`Pending.actAll`).
-/

namespace Chip8

/-! ## The word of a wait -/

/-- The word of an instruction that waits for a key for a register. -/
def waitWord (x : Register) : Nat := 0xF00A + x.val * 0x100

theorem waitWord_injective : Function.Injective waitWord := by
  intro x y same
  unfold waitWord at same
  apply Fin.ext
  omega

theorem decode?_waitWord (x : Register) :
    Instruction.decode? (waitWord x) = some (.awaitKey x) := by
  revert x
  decide

namespace Instruction

theorem ofArithmetic?_ne_awaitKey (x y z : Register) (digit : Nat) :
    ofArithmetic? x y digit ≠ some (.awaitKey z) := by
  unfold ofArithmetic?
  split <;> simp

theorem ofMiscellany?_eq_awaitKey {x z : Register} {byte : Nat}
    (decodes : ofMiscellany? x byte = some (.awaitKey z)) : byte = 0x0A ∧ x = z := by
  unfold ofMiscellany? at decodes
  split at decodes <;> simp at decodes
  exact ⟨rfl, decodes⟩

/-- Only the words of group F with the low byte 0A wait for a key. -/
theorem decode?_eq_awaitKey {word : Int} {z : Register}
    (decodes : decode? word = some (.awaitKey z)) :
    Word.group word = 0xF ∧ (Word.byte word).toNat = 0x0A ∧ Word.x word = z := by
  unfold decode? at decodes
  simp only at decodes
  split at decodes
  case h_9 => exact absurd decodes (ofArithmetic?_ne_awaitKey _ _ _ _)
  case h_16 group => exact ⟨group, ofMiscellany?_eq_awaitKey decodes⟩
  case h_1 | h_15 => split at decodes <;> simp at decodes
  all_goals simp at decodes

end Instruction

/-- Among words of sixteen bits the words of waits are those that wait for a key. -/
theorem decode?_eq_awaitKey_iff {word : Nat} (small : word < 0x10000) {x : Register} :
    Instruction.decode? word = some (.awaitKey x) ↔ word = waitWord x := by
  refine ⟨fun decodes => ?_, fun same => same ▸ decode?_waitWord x⟩
  obtain ⟨group, byte, register⟩ := Instruction.decode?_eq_awaitKey decodes
  have number : ((word : Int) / 0x100 % 16).toNat % 16 = x.val := congrArg Fin.val register
  rw [Word.group] at group
  rw [Word.byte, UInt8.toNat_ofNat'] at byte
  unfold waitWord
  omega

namespace Machine

/-! ## Instructions and the wait -/

variable {machine after : Machine}

theorem wordAtCounter_lt (machine : Machine) : machine.wordAtCounter < 0x10000 := by
  have high := (machine.memory.byteAt machine.counter).toNat_lt
  have low := (machine.memory.byteAt (machine.counter + 1)).toNat_lt
  unfold wordAtCounter
  omega

/-- No instruction but a wait for a key touches the keypad. -/
theorem execute_keypad {instruction : Instruction} (other : ∀ x, instruction ≠ .awaitKey x)
    (went : machine.execute instruction = .ok after) : after.keypad = machine.keypad := by
  cases instruction with
  | awaitKey x => exact absurd rfl (other x)
  | _ => exact (execute_changesWithin went).keypad rfl

/-- A wait takes the counter back to where it was fetched. -/
theorem WellFormed.rewind_pastWord (well : machine.WellFormed) :
    lowWord (machine.pastWord.counter - 2) = machine.counter := by
  obtain ⟨low, high⟩ := well.counter
  simp only [Machine.pastWord, lowWord]
  omega

variable {x : Register}

/-- A wait for a key that none was captured for starts, or goes on, and changes nothing else. -/
theorem WellFormed.next_awaitKey (well : machine.WellFormed)
    (decodes : Instruction.decode? machine.wordAtCounter = some (.awaitKey x))
    (empty : machine.keypad.wait ≠ .captured) :
    machine.next = .ok { machine with keypad := { machine.keypad with wait := .waiting } } := by
  have awaited : machine.pastWord.keypad.await =
      (none, { machine.keypad with wait := .waiting }) := if_neg empty
  rw [well.next_eq, Machine.perform, decodes]
  dsimp only
  rw [Machine.execute, awaited]
  dsimp only
  rw [well.rewind_pastWord]
  rfl

/-- The machine after the instruction that waits for a key for register `x` was handed the captured
one. -/
def answered (machine : Machine) (x : Register) : Machine :=
  { machine with
    registers := machine.registers.set x (UInt8.ofNat machine.keypad.received)
    counter := lowWord (machine.counter + 2)
    keypad := { machine.keypad with wait := .idle } }

/-- A wait for a key takes the captured key and ends. -/
theorem WellFormed.next_captured (well : machine.WellFormed)
    (decodes : Instruction.decode? machine.wordAtCounter = some (.awaitKey x))
    (captured : machine.keypad.wait = .captured) : machine.next = .ok (machine.answered x) := by
  have awaited : machine.pastWord.keypad.await =
      (some machine.keypad.received, { machine.keypad with wait := .idle }) := if_pos captured
  rw [well.next_eq, Machine.perform, decodes]
  dsimp only
  rw [Machine.execute, awaited]
  rfl

/-! ## The wait and the counter -/

def WaitsAtCounter (machine : Machine) : Prop :=
  machine.keypad.wait ≠ .idle →
    ∃ x, Instruction.decode? machine.wordAtCounter = some (.awaitKey x)

theorem WaitsAtCounter.of_idle (idle : machine.keypad.wait = .idle) : machine.WaitsAtCounter :=
  fun on => absurd idle on

/-- Whatever touches neither the memory nor the counter and does not start a wait keeps the wait at
the counter. -/
theorem WaitsAtCounter.of_same (waits : machine.WaitsAtCounter)
    (word : after.wordAtCounter = machine.wordAtCounter)
    (on : after.keypad.wait ≠ .idle → machine.keypad.wait ≠ .idle) : after.WaitsAtCounter := by
  intro afterOn
  rw [word]
  exact waits (on afterOn)

theorem press_wait (keypad : Keypad) (number : Int) (on : (keypad.press number).wait ≠ .idle) :
    keypad.wait ≠ .idle := by
  unfold Keypad.press at on
  split at on
  · exact on
  · dsimp only at on
    split at on
    · rename_i waiting
      rw [waiting]
      decide
    · exact on

theorem release_wait (keypad : Keypad) (number : Int) :
    (keypad.release number).wait = keypad.wait := by
  unfold Keypad.release
  split <;> rfl

theorem WellFormed.next_waitsAtCounter (well : machine.WellFormed) (waits : machine.WaitsAtCounter)
    (went : machine.next = .ok after) : after.WaitsAtCounter := by
  by_cases captured : machine.keypad.wait = .captured
  · obtain ⟨x, decodes⟩ := waits (by rw [captured]; decide)
    rw [well.next_captured decodes captured] at went
    cases went
    exact .of_idle rfl
  · by_cases awaits : ∃ x, Instruction.decode? machine.wordAtCounter = some (.awaitKey x)
    · obtain ⟨x, decodes⟩ := awaits
      rw [well.next_awaitKey decodes captured] at went
      cases went
      exact fun _ => ⟨x, decodes⟩
    · have idle : machine.keypad.wait = .idle := by
        by_contra on
        exact awaits (waits on)
      apply WaitsAtCounter.of_idle
      rw [well.next_eq, Machine.perform] at went
      split at went
      · rename_i instruction decodes
        rw [execute_keypad (fun x same => awaits ⟨x, same ▸ decodes⟩) went]
        exact idle
      · cases went
        exact idle

/-- Whatever happens, the wait stays at the counter. -/
theorem keptByHost_waitsAtCounter :
    KeptByHost fun machine => machine.WellFormed ∧ machine.WaitsAtCounter where
  next := by
    rintro machine ⟨well, waits⟩
    obtain ⟨after, went, afterWell⟩ := well.next
    exact ⟨after, went, afterWell, well.next_waitsAtCounter waits went⟩
  tick := by
    rintro machine ⟨well, waits⟩
    exact ⟨well.tick, waits.of_same rfl id⟩
  clock := by
    rintro machine ⟨well, waits⟩ clock
    exact ⟨well.withRest _ _ _ clock, waits.of_same rfl id⟩
  load := by
    rintro machine after program ⟨well, _⟩ loaded
    refine ⟨well.load loaded, .of_idle ?_⟩
    unfold loadProgram? at loaded
    split at loaded
    · cases loaded
      rfl
    · contradiction
  reset := by
    rintro machine ⟨well, _⟩
    exact ⟨well.reset, .of_idle rfl⟩
  press := by
    rintro machine ⟨well, waits⟩ number
    exact ⟨well.withRest _ _ _ _, waits.of_same rfl (press_wait machine.keypad number)⟩
  release := by
    rintro machine ⟨well, waits⟩ number
    refine ⟨well.withRest _ _ _ _, waits.of_same rfl fun on => ?_⟩
    exact (release_wait machine.keypad number) ▸ on

/-! ## From the start of a wait to its end -/

/-- The wait is on, and the instruction at the counter is the one that waits for register `x`. -/
structure Pending (machine : Machine) (x : Register) : Prop where
  well : machine.WellFormed
  on : machine.keypad.wait ≠ .idle
  decodes : Instruction.decode? machine.wordAtCounter = some (.awaitKey x)

/-- A later machine in which the same wait is on: only the keypad and the timers have moved. -/
structure StillOn (before after : Machine) : Prop where
  on : after.keypad.wait ≠ .idle
  same : after = { before with keypad := after.keypad, timers := after.timers }

theorem StillOn.trans {first second third : Machine} (front : StillOn first second)
    (back : StillOn second third) : StillOn first third where
  on := back.on
  same := by
    rw [back.same, front.same]

theorem StillOn.pending {x : Register} (still : StillOn machine after)
    (pending : machine.Pending x) (well : after.WellFormed) : after.Pending x where
  well := well
  on := still.on
  decodes := by
    rw [still.same]
    exact pending.decodes

theorem press_on {keypad : Keypad} (on : keypad.wait ≠ .idle) (number : Int) :
    (keypad.press number).wait ≠ .idle := by
  unfold Keypad.press
  split
  · exact on
  · dsimp only
    split
    · exact KeyWait.noConfusion
    · exact on

theorem Pending.next_eq (pending : machine.Pending x) :
    machine.next =
      .ok (if machine.keypad.wait = .captured then machine.answered x else machine) := by
  by_cases captured : machine.keypad.wait = .captured
  · rw [pending.well.next_captured pending.decodes captured, if_pos captured]
  · have waiting : machine.keypad.wait = .waiting := by
      cases state : machine.keypad.wait with
      | idle => exact absurd state pending.on
      | waiting => rfl
      | captured => exact absurd state captured
    rw [pending.well.next_awaitKey pending.decodes captured, if_neg captured, ← waiting]

/-- Unless the machine is restarted, one act leaves the wait on or hands the captured key to it. -/
theorem Pending.act (pending : machine.Pending x) {act : Act} (goesOn : ¬act.Restarts) :
    StillOn machine (machine.act act) ∨
      act = .instruction ∧ machine.keypad.wait = .captured ∧
        machine.act act = machine.answered x := by
  cases act with
  | reset | load => exact absurd trivial goesOn
  | tick => exact .inl ⟨pending.on, rfl⟩
  | press number => exact .inl ⟨press_on pending.on number, rfl⟩
  | release number =>
    exact .inl ⟨(release_wait machine.keypad number).symm ▸ pending.on, rfl⟩
  | instruction =>
    rw [act_instruction pending.next_eq]
    split
    · rename_i captured
      exact .inr ⟨rfl, captured, rfl⟩
    · exact .inl ⟨pending.on, rfl⟩

/-- Unless the machine is restarted, the wait goes on, or the first instruction behind the capture
of a key is that wait and takes the key. -/
theorem Pending.actAll (pending : machine.Pending x) {acts : List Act}
    (goesOn : ∀ act ∈ acts, ¬act.Restarts) :
    StillOn machine (machine.actAll acts) ∨
      ∃ front back, acts = front ++ .instruction :: back ∧
        StillOn machine (machine.actAll front) ∧
        (machine.actAll front).keypad.wait = .captured ∧
        machine.actAll (front ++ [.instruction]) = (machine.actAll front).answered x := by
  induction acts generalizing machine with
  | nil => exact .inl ⟨pending.on, rfl⟩
  | cons act rest ih =>
    rcases pending.act (goesOn act (List.mem_cons_self ..)) with still | ⟨rfl, captured, answered⟩
    · have well : (machine.act act).WellFormed := keptByHost_wellFormed.act pending.well act
      rcases ih (still.pending pending well) fun other member =>
          goesOn other (List.mem_cons_of_mem _ member) with
        later | ⟨front, back, rfl, later, captured, answered⟩
      · exact .inl (still.trans later)
      · exact .inr ⟨act :: front, back, rfl, still.trans later, captured, answered⟩
    · exact .inr ⟨[], rest, rfl, ⟨pending.on, rfl⟩, captured, answered⟩

/-- A wait that is on is pending at the counter, between calls and in the midst of one. -/
theorem Reachable.exists_pending {reached : Machine} (reachable : reached.Reachable)
    (acts : List Act) (on : (reached.actAll acts).keypad.wait ≠ .idle) :
    ∃ x, (reached.actAll acts).Pending x := by
  have served := keptByHost_waitsAtCounter.reachable
    (fun rate edge generator => ⟨wellFormed_start rate edge generator, .of_idle rfl⟩) reachable
  obtain ⟨well, waits⟩ := keptByHost_waitsAtCounter.actAll served acts
  obtain ⟨x, decodes⟩ := waits on
  exact ⟨x, well, on, decodes⟩

/-- Whatever calls and further acts have brought a machine about, a wait that is on belongs to the
instruction at the counter. That instruction is the next to be executed; it changes nothing until a
key is captured and then takes the key. No instruction in between runs, and the wait keeps its
counter. -/
theorem wait_belongs_to_counter {reached : Machine} (reachable : reached.Reachable)
    (acts : List Act) (on : (reached.actAll acts).keypad.wait ≠ .idle) :
    let machine := reached.actAll acts
    ∃ x, machine.wordAtCounter = waitWord x ∧
      Instruction.decode? machine.wordAtCounter = some (.awaitKey x) ∧
      machine.next =
        .ok (if machine.keypad.wait = .captured then machine.answered x else machine) ∧
      ∀ later : List Act, (∀ act ∈ later, ¬act.Restarts) →
        StillOn machine (machine.actAll later) ∨
          ∃ front back, later = front ++ .instruction :: back ∧
            StillOn machine (machine.actAll front) ∧
            (machine.actAll front).keypad.wait = .captured ∧
            machine.actAll (front ++ [.instruction]) = (machine.actAll front).answered x := by
  intro machine
  obtain ⟨x, pending⟩ : ∃ x, machine.Pending x := reachable.exists_pending acts on
  have word : machine.wordAtCounter = waitWord x :=
    (decode?_eq_awaitKey_iff machine.wordAtCounter_lt).mp pending.decodes
  exact ⟨x, word, pending.decodes, pending.next_eq, fun later goesOn => pending.actAll goesOn⟩

def waitingForKey : Machine :=
  (start 500 .clip (.ofSeed 0)).serveAll [.load [0xF3, 0x0A], .step false]

theorem reachable_waitingForKey : waitingForKey.Reachable := ⟨500, .clip, .ofSeed 0, _, rfl⟩

theorem waitingForKey_takes_key :
    let given := waitingForKey.actAll [.press 5, .press 7]
    given.keypad.wait = .captured ∧ given.next = .ok (given.answered 3) ∧
      (given.answered 3).registers.get 3 = 5 := by
  intro given
  have captured : given.keypad.wait = .captured := by decide +kernel
  have word : given.wordAtCounter = waitWord 3 := by decide +kernel
  have on : given.keypad.wait ≠ .idle := by
    rw [captured]
    exact KeyWait.noConfusion
  obtain ⟨x, here, _, taken, _⟩ := wait_belongs_to_counter reachable_waitingForKey _ on
  have register : x = 3 := waitWord_injective (here.symm.trans word)
  rw [register, if_pos captured] at taken
  exact ⟨captured, taken, by decide +kernel⟩

end Machine

end Chip8
