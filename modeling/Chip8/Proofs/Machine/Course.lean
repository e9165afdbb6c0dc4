import Chip8.Proofs.Machine.HostCalls

/-! # The course of a call

A call is a row of acts: instructions, ticks, keys and restarts, one at a time. Which acts a call is
made of depends on the rate and the clock alone (`HostCall.course`), not on the program or on what
else a machine holds. A well-formed machine that serves a call takes the course of that call
(`WellFormed.serve_eq`), so whatever every act keeps, every call keeps.
-/

namespace Chip8

/-- What can happen to a machine at one moment. -/
inductive Act where
  | instruction
  | tick
  | press (number : Int)
  | release (number : Int)
  | reset
  | load (program : List UInt8)
deriving DecidableEq, Repr

def Act.Restarts : Act → Prop
  | .reset | .load _ => True
  | .instruction | .tick | .press _ | .release _ => False

/-- A row of acts, and the clock that is set before them. -/
structure Course where
  clock : Clock
  acts : List Act

namespace Machine

/-- The machine after one act. A program that is too large is not loaded. -/
def act (machine : Machine) : Act → Machine
  | .instruction => (Progress.ofMachine machine).next.machine
  | .tick => machine.tick
  | .press number => machine.press number
  | .release number => machine.release number
  | .reset => machine.reset
  | .load program => (machine.loadProgram? program).getD machine

def actAll (machine : Machine) (acts : List Act) : Machine := acts.foldl act machine

def follow (machine : Machine) (course : Course) : Machine :=
  { machine with clock := course.clock }.actAll course.acts

end Machine

/-! ## The courses of calls -/

/-- The acts of a schedule: in front of each burst of instructions a tick. -/
def Schedule.acts (schedule : Schedule) : List Act :=
  schedule.bursts.flatMap fun count => .tick :: List.replicate count .instruction

/-- The course of one instruction behind the time that it takes. Nothing happens if that time is not
defined or the ticks that fall due have no end. -/
def Course.ofCycle (rate : Float) (clock : Clock) : Course :=
  if rate == 0 then ⟨clock, []⟩
  else
    let seconds := clock.seconds + 1 / rate
    match Clock.ticks seconds with
    | (_, true) => ⟨clock, []⟩
    | (ticks, false) =>
      ⟨{ clock with seconds := ticks.getLastD seconds },
        List.replicate ticks.length .tick ++ [.instruction]⟩

def HostCall.course (rate : Float) (clock : Clock) : HostCall → Course
  | .load program => ⟨clock, [.load program]⟩
  | .reset => ⟨clock, [.reset]⟩
  | .step true => .ofCycle rate clock
  | .step false => ⟨clock, [.instruction]⟩
  | .advance elapsed =>
    let schedule := Schedule.ofElapsed rate clock elapsed
    ⟨schedule.clock, schedule.acts⟩
  | .press number => ⟨clock, [.press number]⟩
  | .release number => ⟨clock, [.release number]⟩

def HostCall.faultAt (rate : Float) (clock : Clock) : HostCall → Option Fault
  | .step true =>
    if rate == 0 then some .divisionByZero
    else if (Clock.ticks (clock.seconds + 1 / rate)).2 then some .endless
    else none
  | .advance elapsed => (Schedule.ofElapsed rate clock elapsed).fault
  | .load _ | .reset | .step false | .press _ | .release _ => none

namespace Machine

def faultOf (machine : Machine) : HostCall → Option Fault
  | .step timePasses => (machine.step timePasses).fault
  | .advance elapsed => (machine.advance elapsed).fault
  | .load _ | .reset | .press _ | .release _ => none

def courseOf (machine : Machine) (call : HostCall) : Course :=
  call.course machine.rate machine.clock

/-- The number of ticks that pass while a row of calls is served. -/
def ticksDuring (machine : Machine) : List HostCall → Nat
  | [] => 0
  | call :: rest =>
    (machine.courseOf call).acts.count .tick + (machine.serve call).ticksDuring rest

/-! ## Rows of acts -/

variable {machine : Machine} {P : Machine → Prop}

theorem actAll_cons (machine : Machine) (act : Act) (acts : List Act) :
    machine.actAll (act :: acts) = (machine.act act).actAll acts := rfl

theorem actAll_append (machine : Machine) (front back : List Act) :
    machine.actAll (front ++ back) = (machine.actAll front).actAll back :=
  List.foldl_append

theorem act_instruction {after : Machine} (went : machine.next = .ok after) :
    machine.act .instruction = after :=
  have fine : (Progress.ofMachine machine).fault = none := rfl
  (Progress.next_of_ok fine went).1

/-- A property that every call keeps is kept by every act. -/
theorem KeptByHost.act (kept : KeptByHost P) (holds : P machine) (act : Act) :
    P (machine.act act) := by
  cases act with
  | instruction =>
    obtain ⟨after, went, afterP⟩ := kept.next holds
    rw [act_instruction went]
    exact afterP
  | tick => exact kept.tick holds
  | press number => exact kept.press holds number
  | release number => exact kept.release holds number
  | reset => exact kept.reset holds
  | load program => exact kept.serve holds (.load program)

theorem KeptByHost.actAll (kept : KeptByHost P) (holds : P machine) (acts : List Act) :
    P (machine.actAll acts) := by
  induction acts generalizing machine with
  | nil => exact holds
  | cons act rest ih => exact ih (kept.act holds act)

theorem actAll_ticks (machine : Machine) (count : Nat) :
    machine.actAll (List.replicate count .tick) = Nat.repeat tick count machine := by
  induction count with
  | zero => rfl
  | succ count ih =>
    rw [List.replicate_succ', actAll_append, ih]
    rfl

end Machine

/-! ## Runs as rows of acts -/

namespace Progress

variable {P : Machine → Prop} {progress : Progress}

theorem Going.machine_next (kept : Machine.KeptByTime P) (going : progress.Going P) :
    progress.next.machine = progress.machine.act .instruction := by
  obtain ⟨after, went, _⟩ := kept.next going.machine
  rw [(next_of_ok going.fault went).1, Machine.act_instruction went]

theorem Going.machine_repeat (kept : Machine.KeptByTime P) (going : progress.Going P)
    (count : Nat) :
    (Nat.repeat Progress.next count progress).machine =
      progress.machine.actAll (List.replicate count .instruction) := by
  induction count with
  | zero => rfl
  | succ count ih =>
    have here : (Nat.repeat Progress.next count progress).next.machine = _ :=
      (going.repeat kept count).machine_next kept
    rw [List.replicate_succ', Machine.actAll_append, ← ih]
    exact here

theorem Going.machine_burst (kept : Machine.KeptByTime P) (going : progress.Going P)
    (count : Nat) :
    (progress.burst count).machine =
      progress.machine.actAll (.tick :: List.replicate count .instruction) := by
  have ticked : Going P { progress with machine := progress.machine.tick } :=
    ⟨going.fault, kept.tick going.machine⟩
  have running : ¬progress.fault.isSome := by simp [going.fault]
  rw [Progress.burst, if_neg running, ticked.machine_repeat kept]
  rfl

theorem Going.machine_bursts (kept : Machine.KeptByTime P) (going : progress.Going P)
    (counts : List Nat) :
    (counts.foldl Progress.burst progress).machine =
      progress.machine.actAll
        (counts.flatMap fun count => .tick :: List.replicate count .instruction) := by
  induction counts generalizing progress with
  | nil => rfl
  | cons count rest ih =>
    rw [List.foldl_cons, List.flatMap_cons, ih (going.burst kept count), Machine.actAll_append,
      going.machine_burst kept]

/-- A run that nothing stops has taken the acts of its schedule. -/
theorem Going.machine_follow (kept : Machine.KeptByTime P) (going : progress.Going P)
    (schedule : Schedule) :
    (progress.follow schedule).machine =
      progress.machine.follow ⟨schedule.clock, schedule.acts⟩ := by
  have start : Going P { progress with
      machine := { progress.machine with clock := schedule.clock } } :=
    ⟨going.fault, kept.clock going.machine schedule.clock⟩
  have finish := start.bursts kept schedule.bursts
  unfold Progress.follow
  simp only [finish.fault, Option.isSome_none, Bool.false_eq_true, if_false]
  exact start.machine_bursts kept schedule.bursts

/-- A run that nothing stops meets no fault but that of its schedule. -/
theorem Going.fault_follow (kept : Machine.KeptByTime P) (going : progress.Going P)
    (schedule : Schedule) : (progress.follow schedule).fault = schedule.fault := by
  have start : Going P { progress with
      machine := { progress.machine with clock := schedule.clock } } :=
    ⟨going.fault, kept.clock going.machine schedule.clock⟩
  have finish := start.bursts kept schedule.bursts
  unfold Progress.follow
  simp only [finish.fault, Option.isSome_none, Bool.false_eq_true, if_false]

end Progress

/-! ## Calls as rows of acts -/

namespace Machine

variable {machine : Machine}

/-- A step ends in one instruction unless the time that passes before it stops it. -/
theorem step_machine (machine : Machine) (timePasses : Bool) :
    (machine.step timePasses).machine =
      match if timePasses then machine.passCycle else .ok machine with
      | .error _ => machine
      | .ok ready => ready.act .instruction := by
  unfold Machine.step
  cases if timePasses then machine.passCycle else .ok machine with
  | error fault => rfl
  | ok ready =>
    dsimp only
    split <;> rfl

/-- The time of one instruction passes as ticks, if there is such a time and the ticks end. -/
theorem passCycle_eq (machine : Machine) :
    machine.passCycle =
      if machine.rate == 0 then .error .divisionByZero
      else
        let seconds := machine.clock.seconds + 1 / machine.rate
        match Clock.ticks seconds with
        | (_, true) => .error .endless
        | (ticks, false) =>
          let clock := { machine.clock with seconds := ticks.getLastD seconds }
          .ok ({ machine with clock := clock }.actAll (List.replicate ticks.length .tick)) := by
  rw [passCycle]
  split
  · rfl
  · simp only [consumeTicks, actAll_ticks]
    rcases Clock.ticks (machine.clock.seconds + 1 / machine.rate) with ⟨ticks, unending⟩
    cases unending <;> rfl

theorem step_true (machine : Machine) :
    (machine.step true).machine = machine.follow (.ofCycle machine.rate machine.clock) := by
  rw [step_machine, if_pos rfl, passCycle_eq, Course.ofCycle]
  by_cases undefined : machine.rate == 0
  · rw [if_pos undefined, if_pos undefined]
    rfl
  · rw [if_neg undefined, if_neg undefined]
    dsimp only
    rcases Clock.ticks (machine.clock.seconds + 1 / machine.rate) with ⟨ticks, unending⟩
    cases unending with
    | true => rfl
    | false =>
      rw [follow, actAll_append]
      rfl

/-- A well-formed machine that serves a call takes the course of that call. -/
theorem WellFormed.serve_eq (well : machine.WellFormed) (call : HostCall) :
    machine.serve call = machine.follow (machine.courseOf call) := by
  cases call with
  | load program => rfl
  | reset => rfl
  | press number => rfl
  | release number => rfl
  | advance elapsed =>
    exact (KeptByTime.going well).machine_follow keptByHost_wellFormed.toKeptByTime _
  | step timePasses =>
    cases timePasses with
    | false => exact step_machine machine false
    | true => exact step_true machine

/-- The time that passes before a step leaves a well-formed machine well-formed. -/
theorem WellFormed.ready (well : machine.WellFormed) {timePasses : Bool} {ready : Machine}
    (passed : (if timePasses then machine.passCycle else .ok machine) = .ok ready) :
    ready.WellFormed := by
  cases timePasses with
  | false =>
    cases passed
    exact well
  | true => exact keptByHost_wellFormed.passCycle well passed

/-- A step meets no fault but that of the time that passes before it. -/
theorem WellFormed.step_fault (well : machine.WellFormed) (timePasses : Bool) :
    (machine.step timePasses).fault =
      match if timePasses then machine.passCycle else .ok machine with
      | .error fault => some fault
      | .ok _ => none := by
  unfold Machine.step
  cases passed : if timePasses then machine.passCycle else .ok machine with
  | error fault => rfl
  | ok ready =>
    have going :=
      (KeptByTime.going (well.ready passed)).next keptByHost_wellFormed.toKeptByTime
    simp only [going.fault, Option.isSome_none, Bool.false_eq_true, if_false]

/-- No call to a well-formed machine meets a fault but those of the rate and the clock. -/
theorem WellFormed.faultOf_eq (well : machine.WellFormed) (call : HostCall) :
    machine.faultOf call = call.faultAt machine.rate machine.clock := by
  cases call with
  | load | reset | press | release => rfl
  | advance elapsed =>
    exact (KeptByTime.going well).fault_follow keptByHost_wellFormed.toKeptByTime _
  | step timePasses =>
    rw [Machine.faultOf, well.step_fault]
    cases timePasses with
    | false => rfl
    | true =>
      rw [if_pos rfl, passCycle_eq, HostCall.faultAt]
      by_cases undefined : machine.rate == 0
      · rw [if_pos undefined, if_pos undefined]
      · rw [if_neg undefined, if_neg undefined]
        dsimp only
        rcases Clock.ticks (machine.clock.seconds + 1 / machine.rate) with ⟨ticks, unending⟩
        cases unending <;> rfl

end Machine

end Chip8
