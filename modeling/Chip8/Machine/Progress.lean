import Chip8.Machine.Notices

/-! # Running a machine

A run is a machine together with what was reported on the way and, if it could not go on, the fault
that stopped it. Elapsed time is turned into a schedule first; the run then follows the schedule,
one tick and one burst of instructions after another.
-/

namespace Chip8

/-- How far a run has come. A run that has met a fault does not go on. -/
structure Progress where
  machine : Machine
  /-- What was reported, oldest notice first. -/
  notices : Array Notice
  fault : Option Fault
deriving Repr

namespace Progress

def ofMachine (machine : Machine) : Progress := ⟨machine, #[], none⟩

def perform (progress : Progress) (word : Int) : Progress :=
  if progress.fault.isSome then progress
  else
    let notices := progress.notices ++ (progress.machine.wordNotices word).toArray
    match progress.machine.perform word with
    | .ok machine => ⟨machine, notices, none⟩
    | .error fault => ⟨progress.machine, notices, some fault⟩

def next (progress : Progress) : Progress :=
  if progress.fault.isSome then progress
  else
    match progress.machine.fetch with
    | .ok (word, machine) => { progress with machine := machine }.perform word
    | .error fault => { progress with fault := some fault }

/-- One timer tick and then a burst of instructions. -/
def burst (progress : Progress) (count : Nat) : Progress :=
  Nat.repeat next count
    (if progress.fault.isSome then progress
      else { progress with machine := progress.machine.tick })

/-- Follows a schedule and takes over its clock and its fault. -/
def follow (progress : Progress) (schedule : Schedule) : Progress :=
  let run := schedule.bursts.foldl burst
    { progress with machine := { progress.machine with clock := schedule.clock } }
  if run.fault.isSome then run else { run with fault := schedule.fault }

end Progress

namespace Machine

/-- Lets some seconds pass: the timers tick, and the processor works at its rate. -/
def advance (machine : Machine) (elapsed : Float) : Progress :=
  (Progress.ofMachine machine).follow (.ofElapsed machine.rate machine.clock elapsed)

/-- Lets the ticks that are due pass without any instruction, and counts them. -/
def consumeTicks (machine : Machine) : Except Fault (Nat × Machine) :=
  match Clock.ticks machine.clock.seconds with
  | (_, true) => .error .endless
  | (ticks, false) =>
    let clock := { machine.clock with seconds := ticks.getLastD machine.clock.seconds }
    .ok (ticks.length, Nat.repeat tick ticks.length { machine with clock := clock })

/-- Adds the time of one instruction to the clock and lets the ticks that are due pass. -/
def passCycle (machine : Machine) : Except Fault Machine := do
  if machine.rate == 0 then .error .divisionByZero
  else
    let seconds := machine.clock.seconds + 1 / machine.rate
    let (_, machine) ←
      { machine with clock := { machine.clock with seconds := seconds } }.consumeTicks
    .ok machine

/-- Executes exactly one instruction and reports the state after it. If time is to pass, the timers
first move on by the time that one instruction takes. -/
def step (machine : Machine) (timePasses : Bool) : Progress :=
  match (if timePasses then machine.passCycle else .ok machine) with
  | .error fault => ⟨machine, #[], some fault⟩
  | .ok machine =>
    let progress := (Progress.ofMachine machine).next
    if progress.fault.isSome then progress
    else { progress with notices := progress.notices.push progress.machine.dumpNotice }

end Machine

end Chip8
