/-! # Timers

The delay timer and the sound timer. Each counts down to zero, one step a tick, and the tone sounds
while the sound timer runs.
-/

namespace Chip8

structure Timers where
  delay : Int
  sound : Int
deriving DecidableEq, Repr

namespace Timers

def stopped : Timers := ⟨0, 0⟩

/-- A counter after one tick: one less if it was running. -/
def countDown (count : Int) : Int := if 0 < count then count - 1 else count

def tick (timers : Timers) : Timers := ⟨countDown timers.delay, countDown timers.sound⟩

def soundActive (timers : Timers) : Bool := 0 < timers.sound

end Timers

end Chip8
