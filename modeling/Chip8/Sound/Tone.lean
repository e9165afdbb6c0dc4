import Chip8.Numeric.WholePart

/-! # Tones

A square wave: half a period at one level and half a period at the opposite one. Samples are
sixteen bits wide, and a level that is too large for them wraps around.
-/

namespace Chip8

def sampleRate : Float := 44100

def fullLevel : Float := 32767

/-- One period of a square wave. -/
structure Tone where
  /-- The number of samples. -/
  period : Nat
  /-- The level of the first half of the samples. -/
  level : Int
deriving DecidableEq, Repr

namespace Tone

def roomForSamples : Nat := 0x100000000

/-- A number of samples that have to be kept at once, each in eight bytes while the tone is made. -/
def room (samples : Nat) : Except Fault Nat :=
  if 0x8000000000000000 < samples then .error .tooManySamples
  else if 0x8000000000000000 ≤ samples * 8 then .error .tooManyBytes
  else if roomForSamples < samples then .error (.noRoom samples)
  else .ok samples

/-- The number of samples of a period of a frequency, at least two. -/
def periodOf (hertz : Float) : Except Fault Nat := do
  if hertz == 0 then .error .divisionByZero
  else
    let samples ← Numeric.nearestWhole (sampleRate / hertz)
    room (max 2 samples.toNat)

/-- The level of a loudness. It must fit into sixty-four bits, with or without a sign. -/
def levelOf (volume : Float) : Except Fault Int := do
  let level ← Numeric.wholePart (volume * fullLevel)
  if level.natAbs ≤ 0x8000000000000000 then .ok level else .error .numberTooLarge

def ofHertz (hertz volume : Float) : Except Fault Tone := do
  .ok ⟨← periodOf hertz, ← levelOf volume⟩

/-- A number cut down to the sixteen bits of a sample. -/
def sampleOf (level : Int) : Int := level.bmod 0x10000

/-- The runs of equal samples of a period, in order, each with its length. -/
def runs (tone : Tone) : List (Int × Nat) :=
  let first := sampleOf tone.level
  let second := sampleOf (-tone.level)
  let half := tone.period / 2
  if first = second then [(first, tone.period)]
  else [(first, half), (second, tone.period - half)]

end Tone

end Chip8
