import Chip8.Proofs.Machine.Frame
import Chip8.Proofs.Machine.HostCalls

/-! # Loading a program

A program that is too large changes nothing. Any other program starts the machine anew: nothing of
what the machine has been through is left but the state of its random source. So the machine with
the program is one that was just started with the same rate and edge mode and got the program
(`WellFormed.loadProgram?_eq`), and from there on no answer of a call tells the two apart.
-/

namespace Chip8

/-- The screen without a lit pixel is the one that machines start with. -/
theorem Display.IsScreen.cleared_eq {display : Display} (screen : display.IsScreen) :
    display.cleared = .dark display.edge := by
  rw [Display.cleared, Display.dark, screen.size, ← screen.width, ← screen.height]

namespace Machine

variable {machine after : Machine} {rate : Float} {edge : EdgeMode} {program : List UInt8}

/-! ## What every call keeps -/

/-- A well-formed machine with a given rate and edge mode. -/
structure Tuned (rate : Float) (edge : EdgeMode) (machine : Machine) : Prop where
  well : machine.WellFormed
  rate : machine.rate = rate
  edge : machine.display.edge = edge

/-- The rate and the edge mode that a machine was started with stay. -/
theorem keptByHost_tuned (rate : Float) (edge : EdgeMode) : KeptByHost (Tuned rate edge) where
  next := by
    rintro machine ⟨well, sameRate, sameEdge⟩
    obtain ⟨after, went, afterWell⟩ := well.next
    obtain ⟨_, keepsRate, frame⟩ := next_settings went
    exact ⟨after, went, afterWell, keepsRate.trans sameRate, frame.edge.trans sameEdge⟩
  tick tuned := ⟨tuned.well.tick, tuned.rate, tuned.edge⟩
  clock tuned clock := ⟨tuned.well.withRest _ _ _ clock, tuned.rate, tuned.edge⟩
  load := by
    rintro machine after program ⟨well, sameRate, sameEdge⟩ loaded
    refine ⟨well.load loaded, ?_, ?_⟩
    all_goals
      unfold loadProgram? at loaded
      split at loaded
      · cases loaded
        assumption
      · contradiction
  reset tuned := ⟨tuned.well.reset, tuned.rate, tuned.edge⟩
  press tuned _ := ⟨tuned.well.withRest _ _ _ _, tuned.rate, tuned.edge⟩
  release tuned _ := ⟨tuned.well.withRest _ _ _ _, tuned.rate, tuned.edge⟩

/-! ## Starting anew -/

/-- Started anew, a well-formed machine is as if it had just been started, with the same random
source. -/
theorem WellFormed.reset_eq (well : machine.WellFormed) :
    machine.reset = start machine.rate machine.display.edge machine.generator := by
  have stack : machine.stack.cleared = .ofCapacity stackCapacity := by
    rw [Stack.cleared, well.stack]
  rw [Machine.reset, machine.memory.reset_eq, well.screen.cleared_eq, stack]
  rfl

/-- A program is loaded into a well-formed machine as into one that has just been started, with the
same random source. -/
theorem WellFormed.loadProgram?_eq (well : machine.WellFormed) (program : List UInt8) :
    machine.loadProgram? program =
      (start machine.rate machine.display.edge machine.generator).loadProgram? program := by
  have fresh := wellFormed_start machine.rate machine.display.edge machine.generator
  rw [loadProgram?, loadProgram?, well.reset_eq, fresh.reset_eq]
  rfl

/-- The random source that a machine is started with stays as it is while a program is loaded. -/
theorem loadProgram?_start (generator other : Random.MersenneTwister) :
    (start rate edge generator).loadProgram? program =
      ((start rate edge other).loadProgram? program).map fun fresh =>
        { fresh with generator := generator } := by
  unfold loadProgram?
  split <;> rfl

theorem generator_start (rate : Float) (edge : EdgeMode) (generator : Random.MersenneTwister) :
    (start rate edge generator).generator = generator := rfl

/-- Loading leaves the random source alone. -/
theorem generator_serve_load (machine : Machine) (program : List UInt8) :
    (machine.serve (.load program)).generator = machine.generator := by
  rw [serve, loadProgram?]
  split <;> rfl

/-! ## What a host sees -/

/-- What a host learns from a call: whether a program was loaded, or what was reported on the way
and why the call stopped. -/
inductive Answer where
  | loaded (accepted : Bool)
  | passed (notices : Array Notice) (fault : Option Fault)
  | done

/-- The answer of a machine to a call. -/
def answer (machine : Machine) : HostCall → Answer
  | .load program => .loaded (machine.loadProgram? program).isSome
  | .step timePasses => .passed (machine.step timePasses).notices (machine.step timePasses).fault
  | .advance elapsed => .passed (machine.advance elapsed).notices (machine.advance elapsed).fault
  | .reset | .press _ | .release _ => .done

def history (machine : Machine) : List HostCall → List (Answer × Machine)
  | [] => []
  | call :: rest => (machine.answer call, machine.serve call) :: (machine.serve call).history rest

/-- A program that is too large is refused and changes nothing. -/
theorem serve_load_of_large (machine : Machine) (large : maxProgramSize < program.length) :
    machine.answer (.load program) = .loaded false ∧ machine.serve (.load program) = machine := by
  have refused : machine.loadProgram? program = none := if_neg (Nat.not_le_of_lt large)
  constructor
  · rw [answer, refused]
    rfl
  · rw [serve, refused]
    rfl

/-- Any other program is accepted. -/
theorem answer_load_of_fits (machine : Machine) (fits : program.length ≤ maxProgramSize) :
    machine.answer (.load program) = .loaded true := by
  have accepted : (machine.loadProgram? program).isSome = true := by
    rw [loadProgram?, if_pos fits]
    rfl
  rw [answer, accepted]

/-- A machine with a program is one that has just been started with the same rate and edge mode and
got the program, with the random source that it had. -/
theorem Tuned.serve_load (tuned : Tuned rate edge machine) (fits : program.length ≤ maxProgramSize)
    (other : Random.MersenneTwister) :
    machine.serve (.load program) =
      { (start rate edge other).serve (.load program) with generator := machine.generator } := by
  obtain ⟨fresh, loads⟩ : ∃ fresh, (start rate edge other).loadProgram? program = some fresh :=
    ⟨_, if_pos fits⟩
  have accepted : machine.loadProgram? program =
      some { fresh with generator := machine.generator } := by
    rw [tuned.well.loadProgram?_eq, tuned.rate, tuned.edge, loadProgram?_start _ other, loads]
    rfl
  rw [serve, serve, accepted, loads]
  rfl

/-- A program that is too large is refused and changes nothing. Any other program leaves nothing of
the past of a machine but the state of its random source: in all else the machine is one that was
started with the same rate and edge mode and got the program. If the random sources agree too, every
row of calls runs the same from both. -/
theorem load_forgets_or_refuses (rate : Float) (edge : EdgeMode)
    (generator : Random.MersenneTwister) (calls : List HostCall) (program : List UInt8) :
    let machine := (start rate edge generator).serveAll calls
    (maxProgramSize < program.length →
      machine.answer (.load program) = .loaded false ∧ machine.serve (.load program) = machine) ∧
    (program.length ≤ maxProgramSize → ∀ other : Random.MersenneTwister,
      let loaded := machine.serve (.load program)
      let fresh := (start rate edge other).serve (.load program)
      machine.answer (.load program) = .loaded true ∧
        (start rate edge other).answer (.load program) = .loaded true ∧
        loaded = { fresh with generator := machine.generator } ∧
        (loaded.generator = fresh.generator →
          ∀ later, loaded.history later = fresh.history later)) := by
  intro machine
  have tuned : Tuned rate edge machine := by
    apply (keptByHost_tuned rate edge).serveAll
    exact ⟨wellFormed_start rate edge generator, rfl, rfl⟩
  constructor
  · exact serve_load_of_large machine
  · intro fits other loaded fresh
    have same : loaded = { fresh with generator := machine.generator } :=
      tuned.serve_load fits other
    refine ⟨answer_load_of_fits _ fits, answer_load_of_fits _ fits, same, ?_⟩
    intro generators later
    have equal : loaded = fresh := by
      rw [same] at generators ⊢
      dsimp only at generators
      rw [generators]
    rw [equal]

/-- A machine in the middle of a game: it has drawn a glyph, and the key that it waits for has gone
down. -/
def midGame : Machine :=
  (start 500 .wrap (.ofSeed 7)).serveAll
    [.load [0xD0, 0x05, 0xF3, 0x0A], .step false, .step false, .press 4]

theorem midGame_forgotten :
    midGame.keypad.wait = .captured ∧ midGame.display.pixel 0 0 = true ∧
      midGame.serve (.load (List.replicate 3585 0)) = midGame ∧
      ∀ later,
        (midGame.serve (.load [0x00, 0xE0])).history later =
          ((start 500 .wrap midGame.generator).serve (.load [0x00, 0xE0])).history later := by
  obtain ⟨refuses, _⟩ := load_forgets_or_refuses 500 .wrap (.ofSeed 7)
    [.load [0xD0, 0x05, 0xF3, 0x0A], .step false, .step false, .press 4] (List.replicate 3585 0)
  obtain ⟨_, forgets⟩ := load_forgets_or_refuses 500 .wrap (.ofSeed 7)
    [.load [0xD0, 0x05, 0xF3, 0x0A], .step false, .step false, .press 4] [0x00, 0xE0]
  refine ⟨by decide +kernel, by decide +kernel, ?_, ?_⟩
  · refine (refuses ?_).2
    rw [List.length_replicate]
    decide
  · have fits : [0x00, 0xE0].length ≤ maxProgramSize := by decide
    obtain ⟨_, _, _, agrees⟩ := forgets fits midGame.generator
    apply agrees
    rw [generator_serve_load, generator_serve_load, generator_start]
    unfold midGame
    rfl

end Machine

end Chip8
