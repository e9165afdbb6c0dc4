import Chip8.Machine.Progress
import Chip8.Proofs.Machine.WellFormed
import Chip8.Proofs.Outcome

/-! # Machines under the calls of a host

A host loads programs, starts the machine anew, lets time pass, steps and forwards keys, in any
order. `serveAll` is the machine after a row of such calls. A property that an instruction, a tick
and the clock keep is kept while time passes (`KeptByTime`), and one that the other calls keep too
holds after every row of calls (`KeptByHost.serveAll`). Well-formed machines are such a property,
and they show that no call can bring a machine to an instruction that fails.
-/

namespace Chip8

inductive HostCall where
  | load (program : List UInt8)
  | reset
  | step (timePasses : Bool)
  | advance (elapsed : Float)
  | press (number : Int)
  | release (number : Int)
deriving Repr

namespace Machine

/-- The machine after one call. A program that is too large is not loaded, and a call that meets a
fault leaves the machine where it has got to. -/
def serve (machine : Machine) : HostCall → Machine
  | .load program => (machine.loadProgram? program).getD machine
  | .reset => machine.reset
  | .step timePasses => (machine.step timePasses).machine
  | .advance elapsed => (machine.advance elapsed).machine
  | .press number => machine.press number
  | .release number => machine.release number

def serveAll (machine : Machine) (calls : List HostCall) : Machine := calls.foldl serve machine

/-- A machine that a host can bring about: one that was started and has served a row of calls. -/
def Reachable (machine : Machine) : Prop :=
  ∃ rate edge generator calls, machine = (start rate edge generator).serveAll calls

/-- A property that an instruction keeps, which goes through where it holds, and that ticks and the
clock keep. -/
structure KeptByTime (P : Machine → Prop) : Prop where
  next : ∀ {machine}, P machine → ∃ after, machine.next = .ok after ∧ P after
  tick : ∀ {machine}, P machine → P machine.tick
  clock : ∀ {machine}, P machine → ∀ clock : Clock, P { machine with clock := clock }

/-- A property that every call keeps. -/
structure KeptByHost (P : Machine → Prop) : Prop extends KeptByTime P where
  load : ∀ {machine after program}, P machine → machine.loadProgram? program = some after → P after
  reset : ∀ {machine}, P machine → P machine.reset
  press : ∀ {machine}, P machine → ∀ number, P (machine.press number)
  release : ∀ {machine}, P machine → ∀ number, P (machine.release number)

end Machine

/-! ## Time -/

namespace Progress

/-- Nothing has stopped the run, and its machine has a property. -/
structure Going (P : Machine → Prop) (progress : Progress) : Prop where
  fault : progress.fault = none
  machine : P progress.machine

/-- Where the machine goes through an instruction, so does the run. -/
theorem next_of_ok {progress : Progress} {after : Machine} (fine : progress.fault = none)
    (went : progress.machine.next = .ok after) :
    progress.next.machine = after ∧ progress.next.fault = none := by
  unfold Machine.next at went
  cases fetched : progress.machine.fetch with
  | error fault =>
    rw [fetched] at went
    contradiction
  | ok fetch =>
    obtain ⟨word, past⟩ := fetch
    have performed : past.perform word = .ok after := by
      rw [fetched] at went
      exact went
    simp only [next, perform, fine, fetched, performed, Option.isSome_none, Bool.false_eq_true,
      if_false, and_self]

variable {P : Machine → Prop} {progress : Progress}

theorem Going.next (kept : Machine.KeptByTime P) (going : progress.Going P) :
    progress.next.Going P := by
  obtain ⟨after, went, afterP⟩ := kept.next going.machine
  obtain ⟨machine, fine⟩ := next_of_ok going.fault went
  exact ⟨fine, machine ▸ afterP⟩

theorem Going.repeat (kept : Machine.KeptByTime P) (going : progress.Going P) (count : Nat) :
    (Nat.repeat Progress.next count progress).Going P := by
  induction count with
  | zero => exact going
  | succ count ih => exact ih.next kept

theorem Going.burst (kept : Machine.KeptByTime P) (going : progress.Going P) (count : Nat) :
    (progress.burst count).Going P := by
  unfold Progress.burst
  apply Going.repeat kept
  rw [going.fault, Option.isSome_none, if_neg Bool.false_ne_true]
  exact ⟨rfl, kept.tick going.machine⟩

theorem Going.bursts (kept : Machine.KeptByTime P) (going : progress.Going P) (counts : List Nat) :
    (counts.foldl Progress.burst progress).Going P := by
  induction counts generalizing progress with
  | nil => exact going
  | cons count rest ih => exact ih (going.burst kept count)

/-- A schedule keeps the property, whether it ends in a fault or not. -/
theorem Going.follow (kept : Machine.KeptByTime P) (going : progress.Going P)
    (schedule : Schedule) : P (progress.follow schedule).machine := by
  have start : Going P { progress with
      machine := { progress.machine with clock := schedule.clock } } :=
    ⟨going.fault, kept.clock going.machine schedule.clock⟩
  have finish := start.bursts kept schedule.bursts
  unfold Progress.follow
  simp only [finish.fault, Option.isSome_none, Bool.false_eq_true, if_false]
  exact finish.machine

end Progress

namespace Machine

variable {P : Machine → Prop} {machine : Machine}

theorem KeptByTime.going (holds : P machine) : (Progress.ofMachine machine).Going P := ⟨rfl, holds⟩

theorem KeptByTime.advance (kept : KeptByTime P) (holds : P machine) (elapsed : Float) :
    P (machine.advance elapsed).machine :=
  (KeptByTime.going holds).follow kept _

theorem KeptByTime.repeatTick (kept : KeptByTime P) (holds : P machine) (count : Nat) :
    P (Nat.repeat Machine.tick count machine) := by
  induction count with
  | zero => exact holds
  | succ count ih => exact kept.tick ih

theorem KeptByTime.consumeTicks (kept : KeptByTime P) (holds : P machine) {count : Nat}
    {after : Machine} (consumed : machine.consumeTicks = .ok (count, after)) : P after := by
  unfold Machine.consumeTicks at consumed
  split at consumed
  · contradiction
  · cases consumed
    exact kept.repeatTick (kept.clock holds _) _

theorem KeptByTime.passCycle (kept : KeptByTime P) (holds : P machine) {after : Machine}
    (passed : machine.passCycle = .ok after) : P after := by
  unfold Machine.passCycle at passed
  split at passed
  · contradiction
  · obtain ⟨⟨count, ticked⟩, consumed, same⟩ := Outcome.bind_eq_ok.mp passed
    cases same
    exact kept.consumeTicks (kept.clock holds _) consumed

theorem KeptByTime.step (kept : KeptByTime P) (holds : P machine) (timePasses : Bool) :
    P (machine.step timePasses).machine := by
  unfold Machine.step
  split
  · exact holds
  · rename_i ready passed
    have readyP : P ready := by
      cases timePasses with
      | false =>
        cases passed
        exact holds
      | true => exact kept.passCycle holds passed
    have going := (KeptByTime.going readyP).next kept
    simp only [going.fault, Option.isSome_none, Bool.false_eq_true, if_false]
    exact going.machine

/-! ## Calls -/

theorem KeptByHost.serve (kept : KeptByHost P) (holds : P machine) (call : HostCall) :
    P (machine.serve call) := by
  cases call with
  | load program =>
    cases loaded : machine.loadProgram? program with
    | none => exact (congrArg P (by rw [Machine.serve, loaded]; rfl)).mp holds
    | some after =>
      rw [Machine.serve, loaded]
      exact kept.load holds loaded
  | reset => exact kept.reset holds
  | step timePasses => exact kept.step holds timePasses
  | advance elapsed => exact kept.advance holds elapsed
  | press number => exact kept.press holds number
  | release number => exact kept.release holds number

/-- A property that every call keeps holds after every row of calls. -/
theorem KeptByHost.serveAll (kept : KeptByHost P) (holds : P machine) (calls : List HostCall) :
    P (machine.serveAll calls) := by
  induction calls generalizing machine with
  | nil => exact holds
  | cons call rest ih => exact ih (kept.serve holds call)

/-- A property that every call keeps and that machines start with holds of every machine that a host
can bring about. -/
theorem KeptByHost.reachable (kept : KeptByHost P)
    (begins : ∀ rate edge generator, P (start rate edge generator))
    (reachable : machine.Reachable) : P machine := by
  obtain ⟨rate, edge, generator, calls, rfl⟩ := reachable
  exact kept.serveAll (begins rate edge generator) calls

/-! ## Well-formed machines -/

theorem wellFormed_start (rate : Float) (edge : EdgeMode) (generator : Random.MersenneTwister) :
    (start rate edge generator).WellFormed where
  memory := Memory.full_fresh
  counter := isWord_natCast (by decide)
  index := isWord_natCast (show 0 < 0x10000 by decide)
  stack := Stack.capacity_ofCapacity stackCapacity
  screen := .dark edge
  delay := isCount_byte 0
  sound := isCount_byte 0

theorem WellFormed.reset (well : machine.WellFormed) : machine.reset.WellFormed where
  memory := machine.memory.full_reset
  counter := isWord_natCast (by decide)
  index := isWord_natCast (show 0 < 0x10000 by decide)
  stack := (Stack.capacity_cleared machine.stack).trans well.stack
  screen := well.screen.cleared
  delay := isCount_byte 0
  sound := isCount_byte 0

theorem WellFormed.load (well : machine.WellFormed) {after : Machine} {program : List UInt8}
    (loaded : machine.loadProgram? program = some after) : after.WellFormed := by
  unfold Machine.loadProgram? at loaded
  split at loaded
  · rename_i fits
    cases loaded
    apply well.reset.withMemory
    apply machine.memory.full_reset.load programStart program
    simp only [maxProgramSize, addressSpace, programStart] at fits ⊢
    omega
  · contradiction

/-- Every call leaves a well-formed machine well-formed. -/
theorem keptByHost_wellFormed : KeptByHost WellFormed where
  next well := well.next
  tick well := well.tick
  clock well clock := well.withRest _ _ _ clock
  load well loaded := well.load loaded
  reset well := well.reset
  press well _ := well.withRest _ _ _ _
  release well _ := well.withRest _ _ _ _

/-- After any calls whatever, the parts of the machine are in their ranges and its next instruction
goes through; so would any other word at its counter. -/
theorem serveAll_wellFormed_and_goes_on (rate : Float) (edge : EdgeMode)
    (generator : Random.MersenneTwister) (calls : List HostCall) :
    let machine := (start rate edge generator).serveAll calls
    machine.WellFormed ∧ machine.stack.depth ≤ stackCapacity ∧
      (∃ after, machine.next = .ok after ∧ after.WellFormed) ∧
      ∀ word, ∃ after, machine.perform word = .ok after ∧ after.WellFormed := by
  intro machine
  have well : machine.WellFormed :=
    keptByHost_wellFormed.serveAll (wellFormed_start rate edge generator) calls
  exact ⟨well, well.stack ▸ machine.stack.depth_le, well.next, well.perform⟩

end Machine

end Chip8
