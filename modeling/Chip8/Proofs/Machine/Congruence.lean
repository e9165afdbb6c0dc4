import Chip8.Proofs.Machine.Course

/-! # Twelve bits of an address

The counter, the index and the return addresses have sixteen bits, but memory folds what they name
into twelve. Two machines that differ in nothing but the upper four bits of these are congruent.
Congruent machines fetch the same word, and what it does to them is the same but for those bits
(`Congruent.execute`). They also take the same courses, so they stay congruent whatever a host asks
of them, and nothing but the addresses themselves depends on the upper bits.
-/

namespace Chip8.Machine

open Memory (SameCell)

/-- Two machines that are equal but for their counters, their indices and their live return
addresses, and these name the same cells. -/
inductive Congruent (machine : Machine) : Machine → Prop where
  | mk {counter index : Int} {stack : Stack} :
    SameCell machine.counter counter → SameCell machine.index index →
    List.Forall₂ (fun one other : UInt16 => SameCell one.toNat other.toNat)
      machine.stack.live stack.live →
    Congruent machine { machine with counter := counter, index := index, stack := stack }

variable {machine other after otherAfter : Machine}

theorem Congruent.depth (same : Congruent machine other) :
    machine.stack.depth = other.stack.depth := by
  obtain ⟨counter, index, stack⟩ := same
  rw [← machine.stack.length_live, stack.length_eq, Stack.length_live]

/-! ## Instructions -/

/-- The word of sixteen bits that holds a number names the cell of that number. -/
theorem sameCell_toNat_ofInt (number : Int) :
    SameCell (UInt16.ofInt number).toNat number := by
  rw [Stack.toNat_ofInt, SameCell, lowWord, addressSpace]
  omega

theorem Congruent.skipIf (same : Congruent machine other) (condition : Bool) :
    Congruent (machine.skipIf condition) (other.skipIf condition) := by
  cases same with
  | mk counter index stack =>
    cases condition with
    | false => exact .mk counter index stack
    | true => exact .mk (counter.add 2).lowWord index stack

theorem Congruent.execute_ret (same : Congruent machine other)
    (went : machine.execute .ret = .ok after) (otherWent : other.execute .ret = .ok otherAfter) :
    Congruent after otherAfter := by
  obtain ⟨counter, index, stack⟩ := same
  have tops := Stack.pop?_rel stack
  dsimp only [Machine.execute] at went otherWent
  generalize machine.stack.pop? = popped, Stack.pop? _ = otherPopped at went otherWent tops
  cases tops with
  | none =>
    cases went
    cases otherWent
    exact .mk counter index stack
  | some top =>
    cases went
    cases otherWent
    exact .mk top.1 index top.2

theorem Congruent.execute_call (same : Congruent machine other)
    (capacity : machine.stack.capacity = other.stack.capacity) {target : Address}
    (went : machine.execute (.call target) = .ok after)
    (otherWent : other.execute (.call target) = .ok otherAfter) : Congruent after otherAfter := by
  obtain ⟨counter, index, stack⟩ := same
  have caller := ((sameCell_toNat_ofInt _).trans counter).trans (sameCell_toNat_ofInt _).symm
  have tops := Stack.push?_rel capacity stack caller
  dsimp only [Machine.execute] at went otherWent
  generalize machine.stack.push? _ = pushed, Stack.push? _ _ = otherPushed at went otherWent tops
  cases tops with
  | none =>
    cases went
    cases otherWent
    exact .mk counter index stack
  | some live =>
    cases went
    cases otherWent
    exact .mk rfl index live

/-- Congruent machines stay congruent through an instruction. -/
theorem Congruent.execute (same : Congruent machine other)
    (capacity : machine.stack.capacity = other.stack.capacity) {instruction : Instruction}
    (went : machine.execute instruction = .ok after)
    (otherWent : other.execute instruction = .ok otherAfter) : Congruent after otherAfter := by
  have whole := same
  -- All but the addresses is one and the same, so both machines take the same branch everywhere.
  obtain ⟨counter, index, stack⟩ := same
  cases instruction with
  | ret => exact whole.execute_ret went otherWent
  | call target => exact whole.execute_call capacity went otherWent
  | skipEqual | skipDifferent | skipSame | skipUnlike | skipPressed | skipReleased =>
    cases went
    cases otherWent
    exact whole.skipIf _
  | jump target | jumpOffset target =>
    cases went
    cases otherWent
    exact .mk rfl index stack
  | setIndex target | indexGlyph x =>
    cases went
    cases otherWent
    exact .mk counter rfl stack
  | increaseIndex x =>
    cases went
    cases otherWent
    exact .mk counter (index.add _).lowWord stack
  | awaitKey x =>
    dsimp only [Machine.execute] at went otherWent
    split at went
    · rename_i awaited
      rw [awaited] at otherWent
      cases went
      cases otherWent
      exact .mk counter index stack
    · rename_i awaited
      rw [awaited] at otherWent
      cases went
      cases otherWent
      exact .mk (counter.add (-2)).lowWord index stack
  | draw x y lines =>
    obtain ⟨sprite, read, drawn⟩ := Outcome.bind_eq_ok.mp went
    obtain ⟨otherSprite, otherRead, otherDrawn⟩ := Outcome.bind_eq_ok.mp otherWent
    rw [index.readBlock, otherRead] at read
    cases read
    dsimp only at drawn otherDrawn
    split at drawn
    · contradiction
    · rename_i fine
      rw [fine] at otherDrawn
      cases drawn
      cases otherDrawn
      exact .mk counter index stack
  | storeDecimal x | storeRegisters x =>
    obtain ⟨memory, wrote, stored⟩ := Outcome.bind_eq_ok.mp went
    obtain ⟨otherMemory, otherWrote, otherStored⟩ := Outcome.bind_eq_ok.mp otherWent
    rw [index.writeBlock, otherWrote] at wrote
    cases wrote
    cases stored
    cases otherStored
    exact .mk counter index stack
  | loadRegisters x =>
    obtain ⟨bytes, read, loaded⟩ := Outcome.bind_eq_ok.mp went
    obtain ⟨otherBytes, otherRead, otherLoaded⟩ := Outcome.bind_eq_ok.mp otherWent
    rw [index.readBlock, otherRead] at read
    cases read
    cases loaded
    cases otherLoaded
    exact .mk counter index stack
  | _ =>
    cases went
    cases otherWent
    exact .mk counter index stack

theorem Congruent.perform (same : Congruent machine other)
    (capacity : machine.stack.capacity = other.stack.capacity) {word : Int}
    (went : machine.perform word = .ok after) (otherWent : other.perform word = .ok otherAfter) :
    Congruent after otherAfter := by
  unfold Machine.perform at went otherWent
  cases decoded : Instruction.decode? word with
  | none =>
    rw [decoded] at went otherWent
    cases went
    cases otherWent
    exact same
  | some instruction =>
    rw [decoded] at went otherWent
    exact same.execute capacity went otherWent

/-- Congruent machines fetch the same word. -/
theorem Congruent.wordAtCounter (same : Congruent machine other) :
    machine.wordAtCounter = other.wordAtCounter := by
  cases same with
  | mk counter _ _ =>
    unfold Machine.wordAtCounter
    rw [counter.byteAt, (counter.add 1).byteAt]

theorem Congruent.pastWord (same : Congruent machine other) :
    Congruent machine.pastWord other.pastWord := by
  cases same with
  | mk counter index stack => exact .mk (counter.add 2).lowWord index stack

/-! ## Acts and calls -/

/-- Two well-formed machines that are congruent. -/
structure WellFormedPair (machine other : Machine) : Prop where
  well : machine.WellFormed
  otherWell : other.WellFormed
  congruent : Congruent machine other

theorem WellFormedPair.act (pair : WellFormedPair machine other) (act : Act) :
    WellFormedPair (machine.act act) (other.act act) where
  well := keptByHost_wellFormed.act pair.well act
  otherWell := keptByHost_wellFormed.act pair.otherWell act
  congruent := by
    obtain ⟨well, otherWell, same⟩ := pair
    cases act with
    | instruction =>
      obtain ⟨after, went, _⟩ := well.next
      obtain ⟨otherAfter, otherWent, _⟩ := otherWell.next
      rw [act_instruction went, act_instruction otherWent]
      rw [well.next_eq] at went
      rw [otherWell.next_eq, ← same.wordAtCounter] at otherWent
      exact same.pastWord.perform (well.stack.trans otherWell.stack.symm) went otherWent
    | tick | press | release =>
      obtain ⟨counter, index, stack⟩ := same
      exact .mk counter index stack
    | reset =>
      obtain ⟨counter, index, stack⟩ := same
      exact .mk rfl rfl .nil
    | load program =>
      obtain ⟨counter, index, stack⟩ := same
      dsimp only [Machine.act, Machine.loadProgram?]
      split
      · exact .mk rfl rfl .nil
      · exact .mk counter index stack

theorem WellFormedPair.actAll (pair : WellFormedPair machine other) (acts : List Act) :
    WellFormedPair (machine.actAll acts) (other.actAll acts) := by
  induction acts generalizing machine other with
  | nil => exact pair
  | cons act rest ih => exact ih (pair.act act)

/-- The time that has accrued, and the rate at which it passes, are the same. -/
theorem Congruent.time (same : Congruent machine other) :
    machine.rate = other.rate ∧ machine.clock = other.clock := by
  cases same
  exact ⟨rfl, rfl⟩

/-- Congruent machines take the same course when they serve a call. -/
theorem Congruent.courseOf (same : Congruent machine other) (call : HostCall) :
    machine.courseOf call = other.courseOf call := by
  unfold Machine.courseOf
  rw [same.time.1, same.time.2]

theorem WellFormedPair.serve (pair : WellFormedPair machine other) (call : HostCall) :
    WellFormedPair (machine.serve call) (other.serve call) := by
  obtain ⟨well, otherWell, same⟩ := pair
  rw [well.serve_eq, otherWell.serve_eq, ← same.courseOf]
  apply WellFormedPair.actAll
  refine ⟨well.withRest _ _ _ _, otherWell.withRest _ _ _ _, ?_⟩
  obtain ⟨counter, index, stack⟩ := same
  exact .mk counter index stack

/-! ## Whole runs -/

/-- What can be asked of a machine: its next instruction alone, or a call. -/
inductive Request where
  | next
  | call (call : HostCall)

def grant (machine : Machine) : Request → Machine
  | .next => machine.act .instruction
  | .call call => machine.serve call

def grantAll (machine : Machine) (requests : List Request) : Machine := requests.foldl grant machine

theorem WellFormedPair.grant (pair : WellFormedPair machine other) (request : Request) :
    WellFormedPair (machine.grant request) (other.grant request) := by
  cases request with
  | next => exact pair.act .instruction
  | call call => exact pair.serve call

theorem WellFormedPair.grantAll (pair : WellFormedPair machine other) (requests : List Request) :
    WellFormedPair (machine.grantAll requests) (other.grantAll requests) := by
  induction requests generalizing machine other with
  | nil => exact pair
  | cons request rest ih => exact ih (pair.grant request)

/-- Whatever is asked of two congruent machines, they are congruent afterwards. Either both get
through the next call or both meet the same fault, and both load a program or neither does. -/
theorem grantAll_congruent (well : machine.WellFormed) (otherWell : other.WellFormed)
    (same : Congruent machine other) (requests : List Request) :
    let after := machine.grantAll requests
    let otherAfter := other.grantAll requests
    after.WellFormed ∧ otherAfter.WellFormed ∧ Congruent after otherAfter ∧
      after.stack.depth = otherAfter.stack.depth ∧
      (∀ call, after.faultOf call = otherAfter.faultOf call) ∧
      ∀ program,
        (after.loadProgram? program).isSome = (otherAfter.loadProgram? program).isSome := by
  intro after otherAfter
  have pair : WellFormedPair after otherAfter :=
    WellFormedPair.grantAll ⟨well, otherWell, same⟩ requests
  refine ⟨pair.well, pair.otherWell, pair.congruent, pair.congruent.depth, fun call => ?_,
    fun program => ?_⟩
  · obtain ⟨rate, clock⟩ := pair.congruent.time
    rw [pair.well.faultOf_eq, pair.otherWell.faultOf_eq, rate, clock]
  · unfold Machine.loadProgram?
    split
    · rw [Option.isSome_some, Option.isSome_some]
    · rfl

/-- The stack of a machine that one call is under way in. -/
def oneCaller (caller : UInt16) : Stack :=
  ((Stack.ofCapacity stackCapacity).push? caller).getD (.ofCapacity stackCapacity)

theorem capacity_oneCaller (caller : UInt16) : (oneCaller caller).capacity = stackCapacity := by
  cases pushed : (Stack.ofCapacity stackCapacity).push? caller with
  | none =>
    rw [oneCaller, pushed]
    exact Stack.capacity_ofCapacity stackCapacity
  | some stack =>
    rw [oneCaller, pushed]
    exact (Stack.push?_capacity pushed).trans (Stack.capacity_ofCapacity stackCapacity)

theorem live_oneCaller (caller : UInt16) : (oneCaller caller).live = [caller] := by
  cases pushed : (Stack.ofCapacity stackCapacity).push? caller with
  | none => exact absurd (Stack.push?_eq_none_iff.mp pushed) (by decide +kernel)
  | some stack =>
    rw [oneCaller, pushed]
    exact Stack.live_push? pushed

/-- A machine whose program returns and then stores registers, with some counter, index and return
address. -/
def returning (counter index : Int) (caller : UInt16) : Machine :=
  { (start 500 .wrap (.ofSeed 0)).serve (.load [0x00, 0xEE, 0x00, 0x00, 0xF2, 0x55]) with
    counter := counter
    index := index
    stack := oneCaller caller }

theorem wellFormed_returning {counter index : Int} (counterWord : IsWord counter)
    (indexWord : IsWord index) (caller : UInt16) : (returning counter index caller).WellFormed := by
  have loaded := keptByHost_wellFormed.serve (wellFormed_start 500 .wrap (.ofSeed 0))
    (.load [0x00, 0xEE, 0x00, 0x00, 0xF2, 0x55])
  exact ((loaded.withCounter counterWord).withIndex indexWord).withStack (capacity_oneCaller caller)

theorem congruent_returning {counter index otherCounter otherIndex : Int}
    {caller otherCaller : UInt16} (counters : SameCell counter otherCounter)
    (indices : SameCell index otherIndex) (callers : SameCell caller.toNat otherCaller.toNat) :
    Congruent (returning counter index caller) (returning otherCounter otherIndex otherCaller) := by
  refine .mk counters indices ?_
  dsimp only [returning]
  rw [live_oneCaller, live_oneCaller]
  exact .cons callers .nil

theorem returning_stays_congruent :
    let machine := returning 0x200 0xFFF 0x204
    let other := returning 0x1200 0xFFFF 0x5204
    let requests := [.next, .call (.press 3), .call (.step false)]
    Congruent machine other ∧ Congruent (machine.grantAll requests) (other.grantAll requests) ∧
      (machine.grantAll requests).counter = 0x206 ∧
      (other.grantAll requests).counter = 0x5206 := by
  intro machine other requests
  have well : machine.WellFormed :=
    wellFormed_returning (isWord_natCast (by decide)) (isWord_natCast (by decide)) _
  have otherWell : other.WellFormed :=
    wellFormed_returning (isWord_natCast (by decide)) (isWord_natCast (by decide)) _
  have begins : Congruent machine other := congruent_returning rfl rfl rfl
  obtain ⟨_, _, same, _⟩ := grantAll_congruent well otherWell begins requests
  exact ⟨begins, same, by decide +kernel, by decide +kernel⟩

end Chip8.Machine
