import Chip8.Session
import Chip8.Proofs.Machine.HostCalls

/-! # The turns of a session

A session runs turn by turn, and what is to be seen of it follows from its turns. While a turn hands
on its events, everything but the machine and the pause stays as it is: the equipment of a session.
What the events do to the machine is a row of calls of the host, the same calls that any other host
could make.
-/

namespace Chip8

/-! ## What events leave alone -/

namespace Turn

/-- Two turns whose sessions have the same equipment and that have asked the sound device for the
same. The machine, the pause, the notices and the ending may differ. -/
structure SameEquipment (turn after : Turn) : Prop where
  keyboard : after.session.keyboard = turn.session.keyboard
  beeper : after.session.beeper = turn.session.beeper
  screen : after.session.screen = turn.session.screen
  program : after.session.program = turn.session.program
  title : after.session.title = turn.session.title
  requests : after.requests = turn.requests

theorem SameEquipment.refl (turn : Turn) : SameEquipment turn turn := ⟨rfl, rfl, rfl, rfl, rfl, rfl⟩

theorem SameEquipment.trans {turn middle after : Turn} (first : SameEquipment turn middle)
    (second : SameEquipment middle after) : SameEquipment turn after where
  keyboard := second.keyboard.trans first.keyboard
  beeper := second.beeper.trans first.beeper
  screen := second.screen.trans first.screen
  program := second.program.trans first.program
  title := second.title.trans first.title
  requests := second.requests.trans first.requests

theorem sameEquipment_take (turn : Turn) (progress : Progress) :
    SameEquipment turn (turn.take progress) := ⟨rfl, rfl, rfl, rfl, rfl, rfl⟩

theorem sameEquipment_moveKey (turn : Turn) (move : KeyMove) (code : KeyCode) :
    SameEquipment turn (turn.moveKey move code) := ⟨rfl, rfl, rfl, rfl, rfl, rfl⟩

theorem sameEquipment_restart (turn : Turn) : SameEquipment turn turn.restart := by
  unfold restart
  dsimp only
  split <;> exact ⟨rfl, rfl, rfl, rfl, rfl, rfl⟩

theorem sameEquipment_command (turn : Turn) (code : KeyCode) :
    SameEquipment turn (turn.command code) := by
  unfold command
  split_ifs
  · exact ⟨rfl, rfl, rfl, rfl, rfl, rfl⟩
  · exact ⟨rfl, rfl, rfl, rfl, rfl, rfl⟩
  · unfold stepPaused
    split_ifs
    · exact turn.sameEquipment_take _
    · exact .refl turn
  · exact turn.sameEquipment_restart
  · exact .refl turn

theorem sameEquipment_handle (turn : Turn) (event : Event) :
    SameEquipment turn (turn.handle event) := by
  unfold handle
  split_ifs
  · exact .refl turn
  · cases event with
    | quit => exact ⟨rfl, rfl, rfl, rfl, rfl, rfl⟩
    | other => exact .refl turn
    | key move code =>
      cases move with
      | down => exact (turn.sameEquipment_moveKey .down code).trans (sameEquipment_command _ code)
      | up => exact turn.sameEquipment_moveKey .up code

theorem sameEquipment_foldl (turn : Turn) (events : List Event) :
    SameEquipment turn (events.foldl handle turn) := by
  induction events generalizing turn with
  | nil => exact .refl turn
  | cons event later ih => exact (turn.sameEquipment_handle event).trans (ih _)

theorem sameEquipment_passTime (turn : Turn) (seconds : Float) :
    SameEquipment turn (turn.passTime seconds) := by
  unfold passTime
  split_ifs
  · exact .refl turn
  · exact turn.sameEquipment_take _

end Turn

/-! ## What events do to the machine -/

/-- The calls that an event makes, given which keys have numbers, which program a restart loads and
whether the session is paused. -/
def Event.calls (keyboard : Keyboard) (program : List UInt8) (paused : Bool) :
    Event → List HostCall
  | .key .down code =>
    (keyboard.numberOf? code).toList.map .press ++
      (if code = KeyCode.step then if paused then [.step true] else []
      else if code = KeyCode.restart then [.load program]
      else [])
  | .key .up code => (keyboard.numberOf? code).toList.map .release
  | .quit | .other => []

def Event.pauses (paused : Bool) : Event → Bool
  | .key .down code => if code = KeyCode.pause then !paused else paused
  | _ => paused

def Event.callsAll (keyboard : Keyboard) (program : List UInt8) :
    Bool → List Event → List HostCall
  | _, [] => []
  | paused, event :: later =>
    event.calls keyboard program paused ++ callsAll keyboard program (event.pauses paused) later

namespace Turn

variable {turn : Turn}

/-- Once a turn has an ending, further events do not count. -/
theorem foldl_handle_of_ended (ended : turn.ending.isSome) (events : List Event) :
    events.foldl handle turn = turn := by
  induction events with
  | nil => rfl
  | cons event later ih =>
    rw [List.foldl_cons, show turn.handle event = turn from if_pos ended]
    exact ih

theorem moveKey_machine (turn : Turn) (code : KeyCode) :
    (turn.moveKey .down code).session.machine =
        turn.session.machine.serveAll
          ((turn.session.keyboard.numberOf? code).toList.map .press) ∧
      (turn.moveKey .up code).session.machine =
        turn.session.machine.serveAll
          ((turn.session.keyboard.numberOf? code).toList.map .release) := by
  simp only [moveKey, Keyboard.handle]
  cases turn.session.keyboard.numberOf? code <;> exact ⟨rfl, rfl⟩

theorem command_machine (turn : Turn) (code : KeyCode) :
    (turn.command code).session.machine =
      turn.session.machine.serveAll
        (if code = KeyCode.step then if turn.session.paused then [.step true] else []
        else if code = KeyCode.restart then [.load turn.session.program]
        else []) := by
  unfold command
  by_cases escape : code = KeyCode.escape
  · subst escape
    rfl
  by_cases pause : code = KeyCode.pause
  · subst pause
    rfl
  rw [if_neg escape, if_neg pause]
  split_ifs with step paused restart
  · rw [stepPaused, if_pos paused]
    rfl
  · rw [stepPaused, if_neg paused]
    rfl
  · simp only [Turn.restart, Machine.serveAll, List.foldl_cons, List.foldl_nil, Machine.serve]
    cases turn.session.machine.loadProgram? turn.session.program <;> rfl
  · rfl

theorem handle_machine (going : turn.ending = none) (event : Event) :
    (turn.handle event).session.machine =
      turn.session.machine.serveAll
        (event.calls turn.session.keyboard turn.session.program turn.session.paused) := by
  simp only [handle, going, Option.isSome_none, Bool.false_eq_true, if_false]
  cases event with
  | quit => rfl
  | other => rfl
  | key move code =>
    cases move with
    | up => exact (turn.moveKey_machine code).2
    | down =>
      rw [command_machine, (turn.moveKey_machine code).1]
      exact (List.foldl_append ..).symm

theorem handle_paused (going : turn.ending = none) (event : Event) :
    (turn.handle event).session.paused = event.pauses turn.session.paused := by
  simp only [handle, going, Option.isSome_none, Bool.false_eq_true, if_false]
  cases event with
  | quit => rfl
  | other => rfl
  | key move code =>
    cases move with
    | up => rfl
    | down =>
      simp only [command, Event.pauses]
      by_cases escape : code = KeyCode.escape
      · subst escape
        rfl
      rw [if_neg escape]
      split_ifs with pause step restart
      · rfl
      · unfold stepPaused
        split_ifs <;> rfl
      · unfold Turn.restart
        dsimp only
        split <;> rfl
      · rfl

/-- Letting time pass neither pauses a session nor resumes it. -/
theorem passTime_paused (turn : Turn) (seconds : Float) :
    (turn.passTime seconds).session.paused = turn.session.paused := by
  unfold passTime
  split_ifs <;> rfl

/-- The beeper touches neither the machine nor the pause nor the ending. -/
theorem sound_keeps (turn : Turn) :
    turn.sound.session.machine = turn.session.machine ∧
      turn.sound.session.paused = turn.session.paused ∧ turn.sound.ending = turn.ending := by
  unfold sound
  split_ifs <;> exact ⟨rfl, rfl, rfl⟩

/-- A row of events makes its calls, all of them unless one of the events ends the turn. -/
theorem exists_calls (going : turn.ending = none) (events : List Event) :
    ∃ handled, handled <+: events ∧
      ((events.foldl handle turn).ending = none → handled = events) ∧
      (events.foldl handle turn).session.machine =
        turn.session.machine.serveAll (Event.callsAll turn.session.keyboard turn.session.program
          turn.session.paused handled) := by
  induction events generalizing turn with
  | nil => exact ⟨[], List.nil_prefix, fun _ => rfl, rfl⟩
  | cons event later ih =>
    have machine := handle_machine going event
    have paused := handle_paused going event
    have same := turn.sameEquipment_handle event
    rw [List.foldl_cons]
    cases ended : (turn.handle event).ending with
    | some ending =>
      have ended' : (turn.handle event).ending.isSome := by rw [ended]; rfl
      rw [foldl_handle_of_ended ended']
      refine ⟨[event], ⟨later, rfl⟩, ?_, ?_⟩
      · intro none
        rw [ended] at none
        contradiction
      · rw [machine, Event.callsAll, Event.callsAll, List.append_nil]
    | none =>
      obtain ⟨handled, front, whole, calls⟩ := ih ended
      refine ⟨event :: handled, List.cons_prefix_cons.mpr ⟨rfl, front⟩, ?_, ?_⟩
      · intro none
        rw [whole none]
      · rw [calls, machine, paused, same.keyboard, same.program, Event.callsAll]
        exact (List.foldl_append ..).symm

end Turn

/-! ## Turns in a row -/

/-- The picture that a turn ends with if the session goes on after it. -/
def Turn.picture? (turn : Turn) : Option (List (List Color)) :=
  match turn.ending, turn.session.screen.paint turn.session.machine.display with
  | none, .ok picture => some picture
  | _, _ => none

theorem Turn.going_of_picture {turn : Turn} (painted : turn.picture?.isSome) :
    turn.ending = none := by
  unfold picture? at painted
  split at painted
  · assumption
  · contradiction

namespace Session

/-- The turn of a session after a row of events and before any time has passed. -/
def handled (session : Session) (events : List Event) : Turn :=
  events.foldl Turn.handle (.ofSession session)

/-- The last event of a row decides about the pause, given what the others have left. -/
theorem handled_concat_paused (session : Session) (events : List Event) (event : Event)
    (going : (session.handled events).ending = none) :
    (session.handled (events ++ [event])).session.paused =
      event.pauses (session.handled events).session.paused := by
  rw [handled, List.foldl_concat]
  exact Turn.handle_paused going event

theorem turn_of_seconds (session : Session) {frame : Frame} {seconds : Float}
    (readable : frame.seconds = .ok seconds) :
    session.turn frame = ((session.handled frame.events).passTime seconds).sound := by
  rw [turn, readable]
  rfl

theorem turn_paused (session : Session) (frame : Frame) {seconds : Float}
    (readable : frame.seconds = .ok seconds) :
    (session.turn frame).session.paused = (session.handled frame.events).session.paused := by
  rw [session.turn_of_seconds readable, (Turn.sound_keeps _).2.1, Turn.passTime_paused]

/-- The turns of a session, up to the first that has an ending or cannot be painted. -/
def turns (session : Session) : List Frame → List Turn
  | [] => []
  | frame :: later =>
    let turn := session.turn frame
    turn :: if turn.picture?.isSome then turn.session.turns later else []

/-- Every turn of a session is a turn that some session takes in some frame. -/
theorem exists_of_mem_turns {session : Session} {frames : List Frame} {turn : Turn}
    (member : turn ∈ session.turns frames) :
    ∃ (before : Session) (frame : Frame), turn = before.turn frame := by
  induction frames generalizing session with
  | nil => contradiction
  | cons frame later ih =>
    rcases List.mem_cons.mp member with rfl | member
    · exact ⟨session, frame, rfl⟩
    · split_ifs at member
      · exact ih member
      · contradiction

/-- What is to be seen of a session follows from its turns. -/
theorem play_eq_of_turns {session : Session} {frames others : List Frame}
    (same : session.turns frames = session.turns others) (number : Nat) (notices : List Notice)
    (requests : List SoundRequest) (ending : ScriptEnd) :
    session.play number notices requests ending frames =
      session.play number notices requests ending others := by
  induction frames generalizing session others number notices requests with
  | nil =>
    cases others with
    | nil => rfl
    | cons other others => contradiction
  | cons frame later ih =>
    cases others with
    | nil => contradiction
    | cons other others =>
      obtain ⟨turn, rest⟩ := List.cons.inj same
      simp only [play, turn] at rest ⊢
      cases ended : (session.turn other).ending with
      | some early => rfl
      | none =>
        cases painted : (session.turn other).session.screen.paint
            (session.turn other).session.machine.display with
        | error error => rfl
        | ok picture =>
          simp only [Turn.picture?, ended, painted, Option.isSome_some, if_true] at rest
          rw [ih rest]

/-! ## Whole sessions -/

/-- The session that a program of a name begins with, and what its sound device has been asked to do
until then, if there is a first frame. -/
def opening? (settings : Settings) (host : Host) (name : String) (program : List UInt8) :
    Option (Session × List SoundRequest) :=
  match (machineOf settings host).loadProgram? program,
      Screen.open? settings.scale settings.onColor settings.offColor,
      Beeper.open? host.channels settings.toneHz settings.volume with
  | some machine, .ok screen, .ok (beeper, requests) =>
    some
      ({ machine := machine
         keyboard := .ofKeymap settings.keymap
         beeper := beeper
         screen := screen
         program := program
         title := s!"CHIP-8 - {name}"
         paused := false },
        requests)
  | _, _, _ => none

variable {settings : Settings} {host : Host} {name : String} {program : List UInt8}
  {session : Session} {requests : List SoundRequest}

/-- A session begins with the parts that could be opened, and it is not paused. -/
theorem parts_of_opening (opens : opening? settings host name program = some (session, requests)) :
    (machineOf settings host).loadProgram? program = some session.machine ∧
      Screen.open? settings.scale settings.onColor settings.offColor = .ok session.screen ∧
      Beeper.open? host.channels settings.toneHz settings.volume = .ok (session.beeper, requests) ∧
      session.paused = false := by
  unfold opening? at opens
  split at opens
  · rename_i machine screen beeper opened loads window device
    cases opens
    exact ⟨loads, window, device, rfl⟩
  · contradiction

/-- A session that begins plays its script; what there is before the first frame is the same for
every script. -/
theorem present_of_opening
    (opens : opening? settings host name program = some (session, requests)) :
    ∃ notices, ∀ script, present settings host name program script =
      let (shown, left, ending) := session.play 1 notices requests script.ending script.frames
      ⟨some session.screen.size, some settings.fps, shown, left, ending⟩ := by
  unfold opening? at opens
  split at opens
  · rename_i machine screen beeper opened loads window device
    cases opens
    refine ⟨Machine.loadNotices program ++ Beeper.openNotices host.channels ++
      Keyboard.keymapNotices settings.keymap, ?_⟩
    intro script
    simp only [present, loads, window, device]
  · contradiction

/-- Without a session to begin with no frame is shown, and the script does not matter. -/
theorem present_of_no_opening (shut : opening? settings host name program = none)
    (script other : Script) :
    (present settings host name program script).shown = [] ∧
      present settings host name program script = present settings host name program other := by
  unfold opening? at shut
  unfold present
  cases loads : (machineOf settings host).loadProgram? program with
  | none => exact ⟨rfl, rfl⟩
  | some machine =>
    cases window : Screen.open? settings.scale settings.onColor settings.offColor with
    | error error => exact ⟨rfl, rfl⟩
    | ok screen =>
      cases device : Beeper.open? host.channels settings.toneHz settings.volume with
      | error fault => exact ⟨rfl, rfl⟩
      | ok opened =>
        rw [loads, window, device] at shut
        contradiction

end Session

end Chip8
