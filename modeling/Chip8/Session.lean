import Chip8.Keyboard
import Chip8.Machine.Progress
import Chip8.Screen
import Chip8.Settings
import Chip8.Sound.Beeper

/-! # Sessions

A session runs a program for a user, frame by frame. A frame starts when the host's clock says how
much time has passed since the frame before; then what the user has done meanwhile is handled, the
machine works for that time unless the session is paused, the beeper follows the sound timer, and
the screen is painted.

The host is a script: the readings of its clock with the events before each of them, and how it
ends. `Session.turn` is one frame up to the painting, and `Session.play` follows a script.
-/

namespace Chip8

/-! ## Scripts -/

/-- Something that the user did. -/
inductive Event where
  | key (move : KeyMove) (code : KeyCode)
  /-- The window is to be closed. -/
  | quit
  /-- Something that does not matter. -/
  | other
deriving DecidableEq, Repr

/-- The time since the frame before and what happened in it. -/
structure Frame where
  milliseconds : Int
  events : List Event
deriving DecidableEq, Repr

def Frame.seconds (frame : Frame) : Except Fault Float :=
  match Numeric.ofInteger? frame.milliseconds with
  | some milliseconds => .ok (milliseconds / 1000)
  | none => .error .beyondReals

/-- How a script ends when its frames are used up. -/
inductive ScriptEnd where
  /-- The window is closed. -/
  | quit
  /-- The program is interrupted from outside. -/
  | interrupt
  /-- The host's clock fails. -/
  | failure (message : String)
deriving DecidableEq, Repr

/-- The frames of a host and its end. -/
structure Script where
  frames : List Frame
  ending : ScriptEnd
deriving DecidableEq, Repr

/-! ## Endings -/

/-- What can go wrong during a session. -/
inductive SessionError where
  | fault (fault : Fault)
  | screen (error : ScreenError)
  | host (message : String)
deriving DecidableEq, Repr

def SessionError.message : SessionError → String
  | .fault cause => cause.message
  | .screen error => error.message
  | .host message => message

inductive Ending where
  /-- The user closed it. -/
  | closed
  /-- The program is too large. -/
  | rejected
  /-- It was interrupted from outside. -/
  | interrupted
  /-- Something went wrong. -/
  | failed (error : SessionError)
deriving DecidableEq, Repr

def ScriptEnd.outcome : ScriptEnd → Ending
  | .quit => .closed
  | .interrupt => .interrupted
  | .failure message => .failed (.host message)

/-! ## Turns -/

structure Session where
  machine : Machine
  keyboard : Keyboard
  beeper : Beeper
  screen : Screen
  /-- The bytes that a restart loads again. -/
  program : List UInt8
  /-- The title of the window while the session is not paused. -/
  title : String
  paused : Bool
deriving Repr

def Session.caption (session : Session) : String :=
  if session.paused then s!"{session.title} (paused)" else session.title

def Session.audible (session : Session) : Bool := session.machine.soundActive && !session.paused

/-- A frame in the making. Once it has an ending nothing changes any more. -/
structure Turn where
  session : Session
  notices : List Notice
  requests : List SoundRequest
  ending : Option Ending
deriving Repr

namespace Turn

def ofSession (session : Session) : Turn := ⟨session, [], [], none⟩

/-- The frame with its machine replaced by how far a run has come. -/
def take (turn : Turn) (progress : Progress) : Turn :=
  { turn with
    session := { turn.session with machine := progress.machine }
    notices := turn.notices ++ progress.notices.toList
    ending := progress.fault.map fun fault => .failed (.fault fault) }

def moveKey (turn : Turn) (move : KeyMove) (code : KeyCode) : Turn :=
  let session := turn.session
  { turn with
    session := { session with machine := session.keyboard.handle session.machine move code }
    notices := turn.notices ++ session.keyboard.handleNotices move code }

def togglePause (turn : Turn) : Turn :=
  let paused := !turn.session.paused
  { turn with
    session := { turn.session with paused := paused }
    notices := turn.notices ++ [⟨.info, if paused then "Paused" else "Resumed"⟩] }

def stepPaused (turn : Turn) : Turn :=
  if turn.session.paused then turn.take (turn.session.machine.step true) else turn

def restartNotices (program : List UInt8) : List Notice :=
  ⟨.info, "Reset"⟩ :: Machine.loadNotices program

def restart (turn : Turn) : Turn :=
  let session := turn.session
  let notices := turn.notices ++ restartNotices session.program
  match session.machine.loadProgram? session.program with
  | some machine =>
    { turn with session := { session with machine := machine }, notices := notices }
  | none => { turn with notices := notices, ending := some .rejected }

/-- Does what a key that went down stands for beside the keypad. -/
def command (turn : Turn) (code : KeyCode) : Turn :=
  if code = KeyCode.escape then { turn with ending := some .closed }
  else if code = KeyCode.pause then turn.togglePause
  else if code = KeyCode.step then turn.stepPaused
  else if code = KeyCode.restart then turn.restart
  else turn

def handle (turn : Turn) (event : Event) : Turn :=
  if turn.ending.isSome then turn
  else
    match event with
    | .quit => { turn with ending := some .closed }
    | .other => turn
    | .key .down code => (turn.moveKey .down code).command code
    | .key .up code => turn.moveKey .up code

/-- Lets time pass for the machine unless the session is paused. -/
def passTime (turn : Turn) (seconds : Float) : Turn :=
  if turn.ending.isSome || turn.session.paused then turn
  else turn.take (turn.session.machine.advance seconds)

/-- Lets the beeper follow the sound timer. -/
def sound (turn : Turn) : Turn :=
  if turn.ending.isSome then turn
  else
    let session := turn.session
    { turn with
      session := { session with beeper := session.beeper.update session.audible }
      requests := turn.requests ++ session.beeper.requests session.audible }

end Turn

def Session.turn (session : Session) (frame : Frame) : Turn :=
  match frame.seconds with
  | .error fault => { Turn.ofSession session with ending := some (.failed (.fault fault)) }
  | .ok seconds => ((frame.events.foldl Turn.handle (.ofSession session)).passTime seconds).sound

/-! ## Whole sessions -/

/-- A frame that was painted. -/
structure Shown where
  /-- How many readings of the clock there were. -/
  number : Nat
  session : Session
  picture : List (List Color)
  /-- What the sound device was asked to do since the frame before. -/
  requests : List SoundRequest
  /-- What was reported since the frame before. -/
  notices : List Notice
deriving Repr

/-- What there is to see of a session. -/
structure Showing where
  /-- The width and the height of the window, if it was opened. -/
  size : Option (Int × Int)
  /-- The frames per second that the host's clock was asked for, if it was. -/
  fps : Option Int
  shown : List Shown
  /-- What was reported after the last frame that was painted. -/
  notices : List Notice
  ending : Ending
deriving Repr

namespace Session

/-- The frames that are painted, what is reported after them, and the ending. The first frame that
is painted takes over what was reported and asked for before. -/
def play (session : Session) (number : Nat) (notices : List Notice) (requests : List SoundRequest)
    (ending : ScriptEnd) : List Frame → List Shown × List Notice × Ending
  | [] => ([], notices, ending.outcome)
  | frame :: later =>
    let turn := session.turn frame
    let notices := notices ++ turn.notices
    match turn.ending, turn.session.screen.paint turn.session.machine.display with
    | some early, _ => ([], notices, early)
    | none, .error error => ([], notices, .failed (.screen error))
    | none, .ok picture =>
      let (shown, left, early) := turn.session.play (number + 1) [] [] ending later
      (⟨number, turn.session, picture, requests ++ turn.requests, notices⟩ :: shown, left, early)

structure Host where
  /-- The channels of the sound device, zero if there is none. -/
  channels : Nat
  /-- Where random numbers start unless a setting says where. -/
  seed : Int
deriving Repr

/-- The machine that a session starts with, before a program is loaded. -/
def machineOf (settings : Settings) (host : Host) : Machine :=
  .start settings.rate (.ofWrap settings.wrap) (.ofSeed (settings.seed.getD host.seed))

/-- Runs a program of a name with a host's script. -/
def present (settings : Settings) (host : Host) (name : String) (program : List UInt8)
    (script : Script) : Showing :=
  let loaded := Machine.loadNotices program
  match (machineOf settings host).loadProgram? program with
  | none => ⟨none, none, [], loaded, .rejected⟩
  | some machine =>
    match Screen.open? settings.scale settings.onColor settings.offColor with
    | .error error => ⟨none, none, [], loaded, .failed (.screen error)⟩
    | .ok screen =>
      match Beeper.open? host.channels settings.toneHz settings.volume with
      | .error fault => ⟨some screen.size, none, [], loaded, .failed (.fault fault)⟩
      | .ok (beeper, requests) =>
        let session : Session :=
          { machine := machine
            keyboard := .ofKeymap settings.keymap
            beeper := beeper
            screen := screen
            program := program
            title := s!"CHIP-8 - {name}"
            paused := false }
        let notices :=
          loaded ++ Beeper.openNotices host.channels ++ Keyboard.keymapNotices settings.keymap
        let (shown, left, ending) :=
          session.play 1 notices requests script.ending script.frames
        ⟨some screen.size, some settings.fps, shown, left, ending⟩

end Session

end Chip8
