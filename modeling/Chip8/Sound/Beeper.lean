import Chip8.Notice
import Chip8.Sound.Tone

/-! # The beeper

Plays a tone on a sound device for as long as it is told to be active. A request reaches the device
only when that changes, so the device is told to start and to stop in turn. Without a device the
beeper stays silent.
-/

namespace Chip8

/-- What a sound device is asked to do. -/
inductive SoundRequest where
  /-- Make ready for samples of a rate and a number of bits, signed if negative, on a number of
  channels, with a buffer of some samples. -/
  | prepare (rate bits channels buffer : Int)
  /-- Take over samples in the given arrangement. -/
  | load (shape : List Nat)
  /-- Play the samples again and again. -/
  | play
  /-- Stop playing. -/
  | stop
deriving DecidableEq, Repr

/-- Whether there is something to play, and whether it plays. -/
structure Beeper where
  ready : Bool
  playing : Bool
deriving DecidableEq, Repr

namespace Beeper

/-- The request that every beeper starts with. -/
def preparation : SoundRequest := .prepare 44100 (-16) 1 512

/-- The arrangement of the samples of a period: one column for each channel if there are several. -/
def shapeOf (period channels : Nat) : List Nat :=
  if 1 < channels then [period, channels] else [period]

/-- A beeper on a device with a number of channels, zero if there is no device, and what the device
is asked to do. The tone counts only where there is a device to play it. -/
def open? (channels : Nat) (hertz volume : Float) : Except Fault (Beeper × List SoundRequest) :=
  if channels = 0 then .ok (⟨false, false⟩, [preparation])
  else do
    let tone ← Tone.ofHertz hertz volume
    .ok (⟨true, false⟩, [preparation, .load (shapeOf tone.period channels)])

def openNotices (channels : Nat) : List Notice :=
  if channels = 0 then [⟨.warning, "Audio unavailable, running silent: no device"⟩] else []

def update (beeper : Beeper) (active : Bool) : Beeper :=
  if beeper.ready then { beeper with playing := active } else beeper

/-- What the device is asked to do when the beeper is told whether to be active. -/
def requests (beeper : Beeper) (active : Bool) : List SoundRequest :=
  if beeper.ready && active != beeper.playing then [if active then .play else .stop] else []

end Beeper

end Chip8
