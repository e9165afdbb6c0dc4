import Chip8.Proofs.Session.Turns

/-! # Paused time

The reading of the clock in a frame counts as a whole or not at all: after the events of the frame
have been handled, the time is granted to the machine unless the session is paused then. So two
scripts that differ only in the readings of such frames show the same, and in such a frame the
machine is subject to nothing but the calls that its events make (`paused_time_is_lost`).
-/

namespace Chip8

/-- The clock has a reading that can be turned into seconds. A session ends at any other reading,
before it handles an event of the frame. -/
def Frame.Readable (frame : Frame) : Prop := ∃ seconds, frame.seconds = .ok seconds

namespace Session

/-! ## Single turns -/

section turn

variable {session : Session} {frame : Frame} (readable : frame.Readable)
  (paused : (session.handled frame.events).session.paused)

include readable paused

/-- In a turn that is paused after its events no time passes. -/
theorem turn_of_paused : session.turn frame = (session.handled frame.events).sound := by
  obtain ⟨seconds, reading⟩ := readable
  rw [session.turn_of_seconds reading, Turn.passTime, paused, Bool.or_true, if_pos rfl]

/-- A turn that is paused after its events makes their calls and no others, and it makes all of them
unless one of the events ends it. -/
theorem machine_of_paused :
    ∃ handled, handled <+: frame.events ∧
      ((session.turn frame).ending = none → handled = frame.events) ∧
      (session.turn frame).session.machine =
        session.machine.serveAll
          (Event.callsAll session.keyboard session.program session.paused handled) := by
  obtain ⟨machine, _, ended⟩ := (session.handled frame.events).sound_keeps
  rw [turn_of_paused readable paused, machine, ended]
  exact Turn.exists_calls rfl frame.events

end turn

/-! ## Whole sessions -/

/-- Two rows of frames that differ, for a session, in nothing but the readings of the clock in
paused frames: frame by frame they are the same, or they have the same events and the session is
paused after those. -/
inductive PausedAlike : Session → List Frame → List Frame → Prop
  | nil {session : Session} : PausedAlike session [] []
  | same {session : Session} {frame : Frame} {later others : List Frame} :
    PausedAlike (session.turn frame).session later others →
    PausedAlike session (frame :: later) (frame :: others)
  | paused {session : Session} {frame other : Frame} {later others : List Frame} :
    frame.Readable → other.Readable → frame.events = other.events →
    (session.handled frame.events).session.paused →
    PausedAlike (session.turn frame).session later others →
    PausedAlike session (frame :: later) (other :: others)

/-- A session takes the same turns in frames that differ only in paused time. -/
theorem PausedAlike.turns_eq {session : Session} {frames others : List Frame}
    (alike : PausedAlike session frames others) : session.turns frames = session.turns others := by
  induction alike with
  | nil => rfl
  | same _ ih => rw [turns, turns, ih]
  | @paused session frame other later others first second events paused _ ih =>
    have here : session.turn frame = session.turn other := by
      rw [turn_of_paused first paused, turn_of_paused second (events ▸ paused), events]
    rw [turns, turns, ← here, ih]

/-- Whatever the program, the settings and the host are: scripts that differ only in paused time
show the same, and the session takes the same turns in them, with the same machines, clocks
included. In every paused frame of every session the machine is subject to the calls that the events
of the frame make, one after the other, and to nothing else. -/
theorem paused_time_is_lost (settings : Settings) (host : Host) (name : String)
    (program : List UInt8) (ending : ScriptEnd) (frames others : List Frame)
    (alike : ∀ session requests,
      opening? settings host name program = some (session, requests) →
        PausedAlike session frames others) :
    present settings host name program ⟨frames, ending⟩ =
        present settings host name program ⟨others, ending⟩ ∧
      (∀ session requests, opening? settings host name program = some (session, requests) →
        session.turns frames = session.turns others) ∧
      ∀ (session : Session) (frame : Frame), frame.Readable →
        (session.handled frame.events).session.paused →
        ∃ handled, handled <+: frame.events ∧
          ((session.turn frame).ending = none → handled = frame.events) ∧
          (session.turn frame).session.machine =
            session.machine.serveAll
              (Event.callsAll session.keyboard session.program session.paused handled) := by
  have turns : ∀ session requests,
      opening? settings host name program = some (session, requests) →
        session.turns frames = session.turns others :=
    fun session requests opens => (alike session requests opens).turns_eq
  refine ⟨?_, turns, fun session frame => machine_of_paused⟩
  cases opens : opening? settings host name program with
  | none => exact (present_of_no_opening opens _ _).2
  | some opened =>
    obtain ⟨session, requests⟩ := opened
    obtain ⟨notices, plays⟩ := present_of_opening opens
    rw [plays, plays, play_eq_of_turns (turns session requests opens)]

/-- The second frame pauses the session and takes a single step, the third takes another one, and
the fourth resumes the session. -/
def pausedTwice (second third : Int) : List Frame :=
  [⟨17, []⟩, ⟨second, [.key .down KeyCode.pause, .key .down KeyCode.step]⟩,
    ⟨third, [.key .down KeyCode.step]⟩, ⟨17, [.key .down KeyCode.pause]⟩]

theorem pausedTwice_shows_same :
    (opening? .standard ⟨2, 0⟩ "tone" [0x60, 0x05, 0xF0, 0x18]).isSome ∧
      present .standard ⟨2, 0⟩ "tone" [0x60, 0x05, 0xF0, 0x18] ⟨pausedTwice 20 17, .quit⟩ =
        present .standard ⟨2, 0⟩ "tone" [0x60, 0x05, 0xF0, 0x18] ⟨pausedTwice 0 5000, .quit⟩ := by
  refine ⟨by decide +kernel, (paused_time_is_lost _ _ _ _ _ _ _ ?_).1⟩
  intro session requests opens
  obtain ⟨_, _, _, fresh⟩ := parts_of_opening opens
  have running : (session.turn ⟨17, []⟩).session.paused = false :=
    (session.turn_paused ⟨17, []⟩ rfl).trans fresh
  generalize next : (session.turn ⟨17, []⟩).session = second at running
  have toggled : (second.handled [.key .down KeyCode.pause]).session.paused :=
    (second.handled_concat_paused [] _ rfl).trans (congrArg (!·) running)
  have stepped :
      (second.handled [.key .down KeyCode.pause, .key .down KeyCode.step]).session.paused :=
    (second.handled_concat_paused [.key .down KeyCode.pause] _ rfl).trans toggled
  have left := (second.turn_paused
    ⟨20, [.key .down KeyCode.pause, .key .down KeyCode.step]⟩ rfl).trans stepped
  have steppedAgain := (Session.handled_concat_paused _ [] (.key .down KeyCode.step) rfl).trans left
  subst next
  exact .same (.paused ⟨_, rfl⟩ ⟨_, rfl⟩ rfl stepped
    (.paused ⟨_, rfl⟩ ⟨_, rfl⟩ rfl steppedAgain (.same .nil)))

end Session

end Chip8
