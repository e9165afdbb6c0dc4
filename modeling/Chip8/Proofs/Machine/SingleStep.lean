import Chip8.Proofs.Clock
import Chip8.Proofs.Machine.Timing

/-! # Single steps

A step first lets the time of one instruction pass and then executes the instruction. The
instruction itself never fails on a machine that a host can bring about, but the time may be
undefined, and it may be so long that its ticks have no end. Then the instruction is not reached,
and there is no step (`single_step_works_iff`).
-/

namespace Chip8.Machine

open Clock

/-! ## What a step is to do -/

/-- What may happen to a machine before the instruction of a step: nothing, or the ticks that fall
due within the time of one instruction. -/
inductive Readied (machine : Machine) : Bool → Machine → Prop where
  | untimed : Readied machine false machine
  | timed {count : Nat} {ready : Machine} :
      EachTick Rests (machine.accrue (1 / machine.rate)) (List.replicate count 0) ready →
      Readied machine true ready

/-- The step returns, and what it has done is some ticks, if time passes, and then exactly one
instruction. -/
structure StepsOnce (machine : Machine) (timePasses : Bool) : Prop where
  returns : (machine.step timePasses).fault = none
  executes : ∃ ready, Readied machine timePasses ready ∧
    ready.next = .ok (machine.step timePasses).machine

/-! ## The time of one instruction -/

variable {machine : Machine}

/-- At rate zero, an instruction takes no time that could pass. -/
theorem passCycle_of_zero (zero : (machine.rate == 0) = true) :
    machine.passCycle = .error .divisionByZero :=
  if_pos zero

/-- Where too many seconds are carried, their ticks have no end. -/
theorem passCycle_of_many (some : (machine.rate == 0) = false)
    (many : longestSpan < machine.clock.seconds + 1 / machine.rate) :
    machine.passCycle = .error .endless := by
  have unending := (ticks_unending_iff _).mpr many
  rw [passCycle_eq, some, if_neg Bool.false_ne_true]
  dsimp only
  generalize ticks (machine.clock.seconds + 1 / machine.rate) = ticked at unending ⊢
  obtain ⟨ticks, _⟩ := ticked
  cases unending
  rfl

/-- Otherwise the ticks that are due pass, one after another. -/
theorem passCycle_of_few (some : (machine.rate == 0) = false)
    (few : ¬longestSpan < machine.clock.seconds + 1 / machine.rate) :
    ∃ ready, machine.passCycle = .ok ready ∧ Readied machine true ready := by
  have ended := mt (ticks_unending_iff _).mp few
  rw [passCycle_eq, some, if_neg Bool.false_ne_true]
  dsimp only
  generalize ticked : ticks (machine.clock.seconds + 1 / machine.rate) = found at ended ⊢
  obtain ⟨ticks, _ | _⟩ := found
  · have rests := (ticksFrom_of_ticks ticked).eachTick_rests machine machine.clock.cycles
    rw [← actAll_ticks] at rests
    exact ⟨_, rfl, .timed rests⟩
  · exact absurd rfl ended

/-! ## Steps -/

/-- A step whose time does not pass does nothing. -/
theorem step_of_error {fault : Fault} (failed : machine.passCycle = .error fault) :
    machine.step true = ⟨machine, #[], some fault⟩ := by
  unfold Machine.step
  rw [if_pos rfl, failed]

theorem not_stepsOnce_of_error {fault : Fault} (failed : machine.passCycle = .error fault) :
    ¬machine.StepsOnce true := by
  intro steps
  have returns := steps.returns
  rw [step_of_error failed] at returns
  contradiction

/-- Behind the time that passes, the instruction of a well-formed machine is executed. -/
theorem WellFormed.stepsOnce (well : machine.WellFormed) {timePasses : Bool} {ready : Machine}
    (passed : (if timePasses then machine.passCycle else .ok machine) = .ok ready)
    (readied : Readied machine timePasses ready) : machine.StepsOnce timePasses := by
  obtain ⟨after, went, _⟩ := (well.ready passed).next
  refine ⟨?_, ready, readied, ?_⟩
  · rw [well.step_fault, passed]
  · rw [step_machine, passed, went]
    exact congrArg Except.ok (act_instruction went).symm

/-- On a machine that a host can bring about, a step without time always executes exactly one
instruction. A step with time does so just when the rate is not zero and the time of one instruction
does not carry the clock beyond what ticks can be taken off. At rate zero the step does nothing at
all. -/
theorem single_step_works_iff (reachable : machine.Reachable) :
    machine.StepsOnce false ∧
      (machine.StepsOnce true ↔ (machine.rate == 0) = false ∧
        ¬longestSpan < machine.clock.seconds + 1 / machine.rate) ∧
      ((machine.rate == 0) = true →
        machine.step true = ⟨machine, #[], some .divisionByZero⟩) := by
  have well : machine.WellFormed := keptByHost_wellFormed.reachable wellFormed_start reachable
  refine ⟨well.stepsOnce rfl .untimed, ⟨?_, ?_⟩, ?_⟩
  · intro steps
    cases some : machine.rate == 0 with
    | true => exact absurd steps (not_stepsOnce_of_error (passCycle_of_zero some))
    | false =>
      refine ⟨rfl, fun many => ?_⟩
      exact not_stepsOnce_of_error (passCycle_of_many some many) steps
  · rintro ⟨some, few⟩
    obtain ⟨ready, passed, readied⟩ := passCycle_of_few some few
    exact well.stepsOnce passed readied
  · intro zero
    exact step_of_error (passCycle_of_zero zero)

/-- At rate zero, a machine that has just been started lets time pass but does not step. -/
theorem start_does_not_step :
    let machine := start 0 .clip (.ofSeed 0)
    machine.Reachable ∧ (machine.advance 0.5).fault = none ∧ ¬machine.StepsOnce true ∧
      (machine.step true).machine.counter = programStart := by
  intro machine
  have reachable : machine.Reachable := ⟨0, .clip, .ofSeed 0, [], rfl⟩
  have zero : (machine.rate == 0) = true := show ((0 : Float) == 0) = true from rfl
  have well : machine.WellFormed := wellFormed_start 0 .clip (.ofSeed 0)
  refine ⟨reachable, ?_, not_stepsOnce_of_error (passCycle_of_zero zero), ?_⟩
  · have fine : (Schedule.ofElapsed 0 .zero 0.5).fault = none := by decide +kernel
    exact (well.advance_fault 0.5).trans fine
  · rw [step_of_error (passCycle_of_zero zero)]
    rfl

/-- At a usual rate a step works, at a rate of almost nothing it does not. -/
theorem idling_steps : (idling 500).StepsOnce true ∧ ¬(idling 1e-15).StepsOnce true ∧
    (idling 0).step true = ⟨idling 0, #[], some .divisionByZero⟩ := by
  have reachable (rate : Float) : (idling rate).Reachable :=
    ⟨rate, .wrap, .ofSeed 0, [.load [0x12, 0x00]], rfl⟩
  have usual : ((500 : Float) == 0) = false ∧ ¬longestSpan < (0 : Float) + 1 / 500 := by
    decide
  have least : longestSpan < (0 : Float) + 1 / 1e-15 := by decide
  have zero : ((0 : Float) == 0) = true := rfl
  refine ⟨?_, ?_, ?_⟩
  · exact (single_step_works_iff (reachable 500)).2.1.mpr usual
  · intro steps
    exact ((single_step_works_iff (reachable 1e-15)).2.1.mp steps).2 least
  · exact (single_step_works_iff (reachable 0)).2.2 zero

end Chip8.Machine
