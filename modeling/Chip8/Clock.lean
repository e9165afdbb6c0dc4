import Chip8.Hardware
import Chip8.Numeric.WholePart

/-! # The clock

Emulated time is cut into timer ticks, and every tick owes the processor some cycles. What is left
over of both is carried to the next call. How many ticks fall due, and how many instructions follow
each of them, depends on the carried amounts, the elapsed time and the rate alone, so it is computed
as a `Schedule` before any instruction is executed.
-/

namespace Chip8

def tickInterval : Float := 1 / ticksPerSecond

/-- How far a carried amount may fall short of a boundary and still count as having reached it. -/
def tickTolerance : Float := 1e-9

/-- Time and cycles that have accrued and are not used up. -/
structure Clock where
  /-- Seconds that no tick has consumed yet. -/
  seconds : Float
  /-- Cycles that are owed, with their fraction. -/
  cycles : Float
deriving Repr

def Clock.zero : Clock := ⟨0, 0⟩

namespace Clock

def tickDue (seconds : Float) : Bool := tickInterval ≤ seconds + tickTolerance

/-- A measure of carried seconds that grows with them; it is zero where they are not positive. -/
def measure (seconds : Float) : Nat := if 0 < seconds then seconds.toBits.toNat else 0

/-- The carried seconds after each tick that falls due, in order, and whether the ticks have no end:
the carried seconds may be so many that taking a tick off leaves them as they are. The ticks come
after those that were found `before`, latest first. -/
def ticksAfter (before : List Float) (seconds : Float) : List Float × Bool :=
  if tickDue seconds then
    let left := seconds - tickInterval
    if measure left < measure seconds then ticksAfter (left :: before) left
    else ((left :: before).reverse, true)
  else (before.reverse, false)
termination_by measure seconds
decreasing_by assumption

/-- The carried seconds after each tick that falls due, and whether the ticks have no end. -/
def ticks (seconds : Float) : List Float × Bool := ticksAfter [] seconds

/-- The whole cycles among the owed ones, and what remains owed. The tolerance may leave a remainder
a little below zero. -/
def settle (owed : Float) : Except Fault (Int × Float) := do
  let whole ← Numeric.wholePart (owed + tickTolerance)
  .ok (whole, owed - Float.ofInt whole)

end Clock

/-- What is to happen until the clock has caught up: after each tick a burst of instructions. -/
structure Schedule where
  /-- The instructions that follow each tick, first tick first. -/
  bursts : List Nat
  /-- The clock afterwards. -/
  clock : Clock
  /-- Why the schedule ends before the clock has caught up. -/
  fault : Option Fault
deriving Repr

namespace Schedule

/-- The schedule of a row of ticks, each of which owes `perTick` cycles and is given by the seconds
that it leaves. -/
def ofTicks (perTick : Float) (clock : Clock) : List Float → Schedule
  | [] => ⟨[], clock, none⟩
  | left :: later =>
    let owed := clock.cycles + perTick
    match Clock.settle owed with
    | .error fault => ⟨[0], ⟨left, owed⟩, some fault⟩
    | .ok (count, remaining) =>
      let rest := ofTicks perTick ⟨left, remaining⟩ later
      { rest with bursts := count.toNat :: rest.bursts }

/-- The schedule of some elapsed seconds at a rate of instructions per second. -/
def ofElapsed (rate : Float) (clock : Clock) (elapsed : Float) : Schedule :=
  let seconds := clock.seconds + elapsed
  let (ticks, unending) := Clock.ticks seconds
  let schedule := ofTicks (rate / ticksPerSecond) ⟨seconds, clock.cycles⟩ ticks
  if schedule.fault.isNone && unending then { schedule with fault := some .endless } else schedule

end Schedule

end Chip8
