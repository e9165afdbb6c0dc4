/-! # The Mersenne Twister

The generator with 624 words of state and period 2^19937 - 1. Seeding mixes the words of a key into
a fixed start state, so that equal seeds give equal sequences. Random bytes are drawn by rejection
from nine-bit values, which makes every byte equally likely.
-/

namespace Chip8.Random

/-- The words of state and how many of them have been handed out since they were last renewed. -/
structure MersenneTwister where
  words : Vector UInt32 624
  used : Nat
deriving DecidableEq, Repr

namespace MersenneTwister

/-- The word at a place counted around the circle of words. -/
def wordAt (words : Vector UInt32 624) (place : Nat) : UInt32 :=
  words.get ⟨place % 624, Nat.mod_lt _ (by decide)⟩

/-- The state with a word at a place counted around the circle of words. -/
def setWord (words : Vector UInt32 624) (place : Nat) (word : UInt32) : Vector UInt32 624 :=
  words.set (place % 624) word (Nat.mod_lt _ (by decide))

def stir (word : UInt32) : UInt32 := word ^^^ (word >>> 30)

/-- The start state that every key is mixed into. -/
def startWords (seed : UInt32) : Vector UInt32 624 :=
  (List.range 623).foldl
    (fun words place =>
      setWord words (place + 1)
        (1812433253 * stir (wordAt words place) + UInt32.ofNat (place + 1)))
    (setWord (Vector.replicate 624 0) 0 seed)

/-- The place after a place of the mixing loops, which run around places 1 to 623. -/
def nextPlace (place : Nat) : Nat := if place + 1 < 624 then place + 1 else 1

/-- After the last place the mixing loops carry the last word over to place 0. -/
def carryOver (words : Vector UInt32 624) (place : Nat) : Vector UInt32 624 :=
  if place + 1 < 624 then words else setWord words 0 (wordAt words 623)

/-- The state seeded with a key of words, which must not be empty. -/
def ofKey (key : Array UInt32) : MersenneTwister :=
  let blended := (List.range (max 624 key.size)).foldl
    (fun (words, place) round =>
      let part := round % key.size
      let word := (wordAt words place ^^^ (stir (wordAt words (place - 1)) * 1664525))
        + key.getD part 0 + UInt32.ofNat part
      (carryOver (setWord words place word) place, nextPlace place))
    (startWords 19650218, 1)
  let settled := (List.range 623).foldl
    (fun (words, place) _ =>
      let word := (wordAt words place ^^^ (stir (wordAt words (place - 1)) * 1566083941))
        - UInt32.ofNat place
      (carryOver (setWord words place word) place, nextPlace place))
    blended
  ⟨setWord settled.1 0 0x80000000, 624⟩

/-- The 32-bit digits of a number, least significant first; zero has the single digit zero. -/
def keyOf (number : Nat) : Array UInt32 :=
  if number < 0x100000000 then #[UInt32.ofNat number]
  else #[UInt32.ofNat (number % 0x100000000)] ++ keyOf (number / 0x100000000)
termination_by number
decreasing_by omega

/-- The generator seeded with a whole number, of which the sign does not count. -/
def ofSeed (seed : Int) : MersenneTwister := ofKey (keyOf seed.natAbs)

/-- Renews all words of state, each from itself, its successor and the word 397 places on. -/
def renewed (words : Vector UInt32 624) : Vector UInt32 624 :=
  (List.range 624).foldl
    (fun words place =>
      let top := wordAt words place &&& 0x80000000
      let joined := top ||| (wordAt words (place + 1) &&& 0x7FFFFFFF)
      let turned := wordAt words (place + 397) ^^^ (joined >>> 1)
      setWord words place (if joined &&& 1 = 1 then turned ^^^ 0x9908B0DF else turned))
    words

def temper (word : UInt32) : UInt32 :=
  let word := word ^^^ (word >>> 11)
  let word := word ^^^ ((word <<< 7) &&& 0x9D2C5680)
  let word := word ^^^ ((word <<< 15) &&& 0xEFC60000)
  word ^^^ (word >>> 18)

def next (generator : MersenneTwister) : UInt32 × MersenneTwister :=
  let generator := if generator.used < 624 then generator else ⟨renewed generator.words, 0⟩
  (temper (wordAt generator.words generator.used), { generator with used := generator.used + 1 })

/-- Draws nine-bit values until one fits into a byte, at most as often as the bound says. -/
def byteWithin : Nat → MersenneTwister → UInt8 × MersenneTwister
  | 0, generator => (0, generator)
  | bound + 1, generator =>
    let (output, generator) := generator.next
    let value := output >>> 23
    if value < 256 then (value.toUInt8, generator) else byteWithin bound generator

/-- A random byte. The highest bits of 19937 outputs in a row determine the state; the one state
that makes all of them ones does not make the next one a one, so one draw more always suffices. -/
def byte (generator : MersenneTwister) : UInt8 × MersenneTwister := byteWithin 19938 generator

end MersenneTwister

end Chip8.Random
