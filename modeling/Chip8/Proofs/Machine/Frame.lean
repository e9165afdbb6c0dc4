import Chip8.Proofs.Machine.Footprint

/-! # What instructions leave alone

Calls and returns move the stack, and no other instruction touches it (`execute_stack`). No
instruction at all touches the rate, the clock or the frame of the display (`execute_settings`), nor
does any depend on the clock (`execute_withClock`).
-/

namespace Chip8.Machine

variable {machine after : Machine} {instruction : Instruction}

/-- A call puts the counter on the stack, a return takes an address off and goes there, and nothing
else touches the stack. -/
theorem execute_stack (went : machine.execute instruction = .ok after) :
    after.stack = machine.stack ∨
      (∃ target, instruction = .call target ∧
        machine.stack.push? (UInt16.ofInt machine.counter) = some after.stack) ∨
      (instruction = .ret ∧ ∃ caller, machine.stack.pop? = some (caller, after.stack)) := by
  cases instruction with
  | ret =>
    dsimp only [execute] at went
    split at went
    · rename_i caller stack popped
      cases went
      exact .inr (.inr ⟨rfl, caller, popped⟩)
    · cases went
      exact .inl rfl
  | call target =>
    dsimp only [execute] at went
    split at went
    · rename_i stack pushed
      cases went
      exact .inr (.inl ⟨target, rfl, pushed⟩)
    · cases went
      exact .inl rfl
  | _ =>
    left
    exact (execute_changesWithin went).stack rfl

/-- No instruction touches the rate, the clock or the frame of the display. -/
theorem execute_settings (went : machine.execute instruction = .ok after) :
    after.clock = machine.clock ∧ after.rate = machine.rate ∧
      Display.SameFrame machine.display after.display := by
  have within := execute_changesWithin went
  exact ⟨within.clock, within.rate, within.frame⟩

/-- What an instruction does does not depend on the clock. -/
theorem execute_withClock (machine : Machine) (clock : Clock) (instruction : Instruction) :
    { machine with clock := clock }.execute instruction =
      (machine.execute instruction).map fun after => { after with clock := clock } := by
  cases instruction with
  | ret =>
    dsimp only [execute]
    cases machine.stack.pop? <;> rfl
  | call target =>
    dsimp only [execute]
    cases machine.stack.push? (UInt16.ofInt machine.counter) <;> rfl
  | skipEqual | skipDifferent | skipSame | skipUnlike | skipPressed | skipReleased =>
    dsimp only [execute, skipIf]
    split <;> rfl
  | awaitKey x =>
    dsimp only [execute]
    rcases machine.keypad.await with ⟨_ | key, keypad⟩ <;> rfl
  | draw x y lines =>
    dsimp only [execute]
    cases machine.memory.readBlock machine.index lines with
    | error fault => rfl
    | ok sprite =>
      simp only [bind, Except.bind]
      split <;> rfl
  | storeDecimal x =>
    dsimp only [execute]
    cases machine.memory.writeBlock machine.index (decimalDigits (machine.registers.get x)) <;> rfl
  | storeRegisters x =>
    dsimp only [execute]
    cases machine.memory.writeBlock machine.index
      ((registersUpTo x).map machine.registers.get) <;> rfl
  | loadRegisters x =>
    dsimp only [execute]
    cases machine.memory.readBlock machine.index (x + 1) <;> rfl
  | _ => rfl

/-! ## Words and fetched instructions -/

theorem perform_settings {word : Int} (went : machine.perform word = .ok after) :
    after.clock = machine.clock ∧ after.rate = machine.rate ∧
      Display.SameFrame machine.display after.display := by
  unfold perform at went
  split at went
  · exact execute_settings went
  · cases went
    exact ⟨rfl, rfl, .refl _⟩

theorem fetch_eq_ok {word : Nat} (fetched : machine.fetch = .ok (word, after)) :
    after = machine.pastWord := by
  obtain ⟨high, _, rest⟩ := Outcome.bind_eq_ok.mp fetched
  obtain ⟨low, _, same⟩ := Outcome.bind_eq_ok.mp rest
  cases same
  rfl

/-- The next instruction touches neither the rate nor the clock nor the frame of the display. -/
theorem next_settings (went : machine.next = .ok after) :
    after.clock = machine.clock ∧ after.rate = machine.rate ∧
      Display.SameFrame machine.display after.display := by
  obtain ⟨⟨word, past⟩, fetched, performed⟩ := Outcome.bind_eq_ok.mp went
  rw [fetch_eq_ok fetched] at performed
  dsimp only at performed
  have settings := perform_settings performed
  exact settings

theorem perform_withClock (machine : Machine) (clock : Clock) (word : Int) :
    { machine with clock := clock }.perform word =
      (machine.perform word).map fun after => { after with clock := clock } := by
  unfold perform
  split
  · exact execute_withClock ..
  · rfl

/-- What the next instruction does does not depend on the clock. -/
theorem next_withClock (machine : Machine) (clock : Clock) :
    { machine with clock := clock }.next =
      machine.next.map fun after => { after with clock := clock } := by
  dsimp only [next, fetch]
  cases machine.memory.read machine.counter with
  | error fault => rfl
  | ok high =>
    cases machine.memory.read (machine.counter + 1) with
    | error fault => rfl
    | ok low => exact perform_withClock machine.pastWord clock _

end Chip8.Machine
