import Mathlib.Data.List.Chain
import Chip8.Proofs.Session.Turns

/-! # The tone of a session

In every frame that has no ending the beeper is told whether the tone is due, and it asks the device
for something only where that changes. So the device plays after a frame exactly when the tone is
due then, and it is started and stopped in turn over the whole session (`beeper_follows_timer`).
-/

namespace Chip8

/-! ## Starting and stopping -/

def SoundRequest.isTone : SoundRequest → Bool
  | .play | .stop => true
  | .prepare .. | .load _ => false

/-- The starts and stops in a row of requests. -/
def tones (requests : List SoundRequest) : List SoundRequest :=
  requests.filter SoundRequest.isTone

def playsAfter (before : Bool) (requests : List SoundRequest) : Bool :=
  requests.foldl (fun playing request => request == .play || playing && request != .stop) before

/-- The requests of each frame if there is one where the tone becomes due, one where it ceases to be
due, and none elsewhere. -/
def changes : Bool → List Bool → List (List SoundRequest)
  | _, [] => []
  | before, due :: later =>
    (if due = before then [] else [if due then .play else .stop]) :: changes due later

theorem length_changes (before : Bool) (dues : List Bool) :
    (changes before dues).length = dues.length := by
  induction dues generalizing before with
  | nil => rfl
  | cons due later ih => rw [changes, List.length_cons, List.length_cons, ih]

theorem changes_append (before : Bool) (dues later : List Bool) :
    changes before (dues ++ later) =
      changes before dues ++ changes (dues.getLastD before) later := by
  induction dues generalizing before with
  | nil => rfl
  | cons due rest ih =>
    rw [List.cons_append, changes, changes, ih, List.getLastD_cons, List.cons_append]

/-- After each frame the device plays if the tone is due. -/
theorem playsAfter_changes {before : Bool} {dues : List Bool} {n : Nat} (inside : n < dues.length) :
    playsAfter before ((changes before dues).take (n + 1)).flatten = dues[n] := by
  induction dues generalizing before n with
  | nil => contradiction
  | cons due later ih =>
    have here : playsAfter before (if due = before then [] else [if due then .play else .stop]) =
        due := by
      cases before <;> cases due <;> rfl
    rw [changes, List.take_succ_cons, List.flatten_cons, playsAfter, List.foldl_append]
    change playsAfter (playsAfter before _) _ = _
    rw [here]
    cases n with
    | zero => rfl
    | succ n => exact ih (Nat.lt_of_succ_lt_succ inside)

/-- Starts and stops alternate; the first is a start unless the device plays before. -/
theorem isChain_changes (before : Bool) (dues : List Bool) :
    (changes before dues).flatten.IsChain (· ≠ ·) ∧
      (changes before dues).flatten.head? ≠ some (if before then .play else .stop) := by
  induction dues generalizing before with
  | nil => exact ⟨List.IsChain.nil, Option.some_ne_none _ ∘ Eq.symm⟩
  | cons due later ih =>
    obtain ⟨alternate, first⟩ := ih due
    rw [changes, List.flatten_cons]
    by_cases same : due = before
    · rw [if_pos same, List.nil_append, ← same]
      exact ⟨alternate, first⟩
    · rw [if_neg same, List.singleton_append, List.isChain_cons]
      refine ⟨⟨?_, alternate⟩, ?_⟩
      · intro next member equal
        exact first (equal ▸ member)
      · rw [List.head?_cons]
        cases before <;> cases due <;> first | contradiction | decide

example : changes false [false, true, true, false] = [[], [.play], [], [.stop]] := rfl

/-- A row of frames, each as whether the tone is due after it and as the starts and stops in it, in
which a silent device follows the tone. -/
structure Follows (frames : List (Bool × List SoundRequest)) : Prop where
  /-- After each frame the device plays exactly if the tone is due. -/
  plays : ∀ (n : Nat) (inside : n < frames.length),
    playsAfter false ((frames.map Prod.snd).take (n + 1)).flatten = frames[n].1
  /-- There is a request exactly where that changes. -/
  changes : frames.map Prod.snd = changes false (frames.map Prod.fst)
  /-- The device is started first. -/
  first : (frames.map Prod.snd).flatten.head? ≠ some .stop
  /-- The device is not started or stopped twice in a row. -/
  alternate : (frames.map Prod.snd).flatten.IsChain (· ≠ ·)

theorem Follows.of_changes {frames : List (Bool × List SoundRequest)}
    (same : frames.map Prod.snd = Chip8.changes false (frames.map Prod.fst)) : Follows frames where
  changes := same
  plays n inside := by
    rw [same, playsAfter_changes (by rwa [List.length_map]), List.getElem_map]
  first := same ▸ (isChain_changes false _).2
  alternate := same ▸ (isChain_changes false _).1

/-- A device that follows the tone does so from the beginning. -/
theorem Follows.of_front {frames whole : List (Bool × List SoundRequest)} (follows : Follows whole)
    (front : frames <+: whole) : Follows frames := by
  obtain ⟨rest, rfl⟩ := front
  have changes := follows.changes
  rw [List.map_append, List.map_append, changes_append] at changes
  apply Follows.of_changes
  exact (List.append_inj changes (by rw [length_changes, List.length_map, List.length_map])).1

/-! ## Beepers -/

/-- What is asked for before the first frame starts and stops nothing, the beeper does not play, and
it has something to play exactly if there is a device. -/
theorem Beeper.opened {channels : Nat} {hertz volume : Float} {beeper : Beeper}
    {requests : List SoundRequest}
    (opens : Beeper.open? channels hertz volume = .ok (beeper, requests)) :
    tones requests = [] ∧ beeper = ⟨channels != 0, false⟩ ∧
      (channels = 0 → requests = [Beeper.preparation]) := by
  unfold Beeper.open? at opens
  split_ifs at opens with silent
  · cases opens
    exact ⟨rfl, by rw [silent]; rfl, fun _ => rfl⟩
  · obtain ⟨tone, _, same⟩ := Outcome.bind_eq_ok.mp opens
    cases same
    exact ⟨rfl, by rw [bne_iff_ne.mpr silent], fun none => absurd none silent⟩

/-- A beeper with something to play starts or stops it where that is to change. -/
theorem Beeper.tones_requests {beeper : Beeper} (ready : beeper.ready) (active : Bool) :
    tones (beeper.requests active) =
      if active = beeper.playing then [] else [if active then .play else .stop] := by
  obtain ⟨_, playing⟩ := beeper
  subst ready
  cases active <;> cases playing <;> rfl

/-! ## Frames -/

/-- A window of a usable size and of usable colours can be painted, whatever the display is. -/
theorem Screen.exists_paint {screen : Screen} {dark light : Color}
    (offColor : hostColor screen.offColor = .ok dark)
    (onColor : hostColor screen.onColor = .ok light) (sized : screen.isUnsized = false)
    (display : Display) : ∃ picture, screen.paint display = .ok picture := by
  rw [paint, offColor, onColor, sized]
  cases display.rows.any (·.any id) <;> exact ⟨_, rfl⟩

namespace Session

/-- The tone is due while the sound timer runs and the session is not paused. -/
theorem audible_iff (session : Session) :
    session.audible = true ↔ 0 < session.machine.timers.sound ∧ session.paused = false := by
  simp [audible, Machine.soundActive, Timers.soundActive]

/-- A turn without an ending has told the beeper whether the tone is due. A turn with an ending has
asked the device for nothing. -/
theorem turn_sound (session : Session) (frame : Frame) :
    ((session.turn frame).ending = none →
        (session.turn frame).session.beeper =
            session.beeper.update (session.turn frame).session.audible ∧
          (session.turn frame).requests =
            session.beeper.requests (session.turn frame).session.audible) ∧
      ((session.turn frame).ending ≠ none → (session.turn frame).requests = []) := by
  cases reading : frame.seconds with
  | error fault =>
    rw [turn, reading]
    constructor
    · intro going
      contradiction
    · intro _
      rfl
  | ok seconds =>
    rw [session.turn_of_seconds reading]
    have same : Turn.SameEquipment (.ofSession session)
        ((session.handled frame.events).passTime seconds) :=
      ((Turn.ofSession session).sameEquipment_foldl frame.events).trans
        (Turn.sameEquipment_passTime _ seconds)
    generalize (session.handled frame.events).passTime seconds = turn at same
    have beeper : turn.session.beeper = session.beeper := same.beeper
    have requests : turn.requests = [] := same.requests
    cases ended : turn.ending with
    | some ending =>
      simp only [Turn.sound, ended, Option.isSome_some, if_true]
      constructor
      · intro going
        contradiction
      · intro _
        exact requests
    | none =>
      simp only [Turn.sound, ended, Option.isSome_none, Bool.false_eq_true, if_false, beeper,
        requests, List.nil_append]
      constructor
      · intro _
        exact ⟨rfl, rfl⟩
      · intro going
        exact absurd rfl going

/-- The turns in which the beeper is told whether the tone is due. -/
def tellingTurns (session : Session) (frames : List Frame) : List Turn :=
  (session.turns frames).filter (·.ending.isNone)

/-- A turn with an ending is the last one, and the beeper is not told in it. -/
theorem tellingTurns_cons_of_ended {session : Session} {frame : Frame}
    (ended : (session.turn frame).ending ≠ none) (later : List Frame) :
    session.tellingTurns (frame :: later) = [] := by
  obtain ⟨ending, ended⟩ := Option.ne_none_iff_exists'.mp ended
  simp [tellingTurns, turns, Turn.picture?, ended]

theorem tellingTurns_cons_of_going {session : Session} {frame : Frame}
    (going : (session.turn frame).ending = none) (later : List Frame) :
    session.tellingTurns (frame :: later) =
      session.turn frame ::
        if (session.turn frame).picture?.isSome then
          (session.turn frame).session.tellingTurns later
        else [] := by
  rw [tellingTurns, turns, List.filter_cons, going, Option.isNone_none, if_pos rfl]
  split_ifs <;> rfl

/-- Turns after each of which the beeper plays if the tone is due, with starts and stops where that
changes from what was before. -/
structure Sounded (before : Bool) (turns : List Turn) : Prop where
  playing : ∀ turn ∈ turns, turn.session.beeper.playing = turn.session.audible
  tones : turns.map (fun turn => tones turn.requests) =
    changes before (turns.map fun turn => turn.session.audible)

theorem Sounded.nil (before : Bool) : Sounded before [] where
  playing _ member := absurd member List.not_mem_nil
  tones := rfl

/-- What the beeper asks for in the first turn goes with the turns after it. -/
theorem Sounded.cons {beeper : Beeper} {turn : Turn} {later : List Turn} (ready : beeper.ready)
    (update : turn.session.beeper = beeper.update turn.session.audible)
    (requests : turn.requests = beeper.requests turn.session.audible)
    (rest : Sounded turn.session.audible later) : Sounded beeper.playing (turn :: later) where
  playing other member := by
    rcases List.mem_cons.mp member with rfl | member
    · rw [update, Beeper.update, if_pos ready]
    · exact rest.playing other member
  tones := by
    rw [List.map_cons, List.map_cons, changes, requests, Beeper.tones_requests ready, rest.tones]

/-- A beeper that has something to play follows the tone in every turn in which it is told. -/
theorem sounded_tellingTurns {session : Session} (ready : session.beeper.ready)
    (frames : List Frame) : Sounded session.beeper.playing (session.tellingTurns frames) := by
  induction frames generalizing session with
  | nil => exact .nil _
  | cons frame later ih =>
    by_cases going : (session.turn frame).ending = none
    · rw [tellingTurns_cons_of_going going]
      obtain ⟨update, requests⟩ := (session.turn_sound frame).1 going
      apply Sounded.cons ready update requests
      split_ifs
      · have same : (session.turn frame).session.beeper.playing =
            (session.turn frame).session.audible := by rw [update, Beeper.update, if_pos ready]
        rw [← same]
        apply ih
        rw [update, Beeper.update, if_pos ready]
        exact ready
      · exact .nil _
    · rw [tellingTurns_cons_of_ended going]
      exact .nil _

/-- A device that is silent before the first frame follows the tone. -/
theorem follows_tellingTurns {session : Session} (ready : session.beeper.ready)
    (silent : session.beeper.playing = false) (frames : List Frame) :
    Follows ((session.tellingTurns frames).map fun turn =>
      (turn.session.audible, tones turn.requests)) := by
  apply Follows.of_changes
  rw [List.map_map, List.map_map]
  exact silent ▸ (sounded_tellingTurns ready frames).tones

/-- The frames that are shown are the first of the turns in which the beeper is told, and they start
and stop the tone as these do. -/
theorem shown_front (session : Session) (number : Nat) (notices : List Notice)
    {requests : List SoundRequest} (quiet : tones requests = []) (ending : ScriptEnd)
    (frames : List Frame) :
    (session.play number notices requests ending frames).1.map
        (fun shown => (shown.session, tones shown.requests)) <+:
      (session.tellingTurns frames).map (fun turn => (turn.session, tones turn.requests)) := by
  induction frames generalizing session number notices requests with
  | nil => exact List.nil_prefix
  | cons frame later ih =>
    rw [play]
    dsimp only
    split
    · exact List.nil_prefix
    · exact List.nil_prefix
    · rename_i picture going painted
      have same : tones (requests ++ (session.turn frame).requests) =
          tones (session.turn frame).requests := by
        rw [tones, List.filter_append, ← tones, quiet, List.nil_append, ← tones]
      rw [tellingTurns_cons_of_going going, List.map_cons, List.map_cons, Turn.picture?, going,
        painted, same]
      exact List.cons_prefix_cons.mpr ⟨rfl, ih _ _ _ rfl⟩

/-- A frame that can be painted is shown, and then those that are shown after it. -/
theorem play_cons_of_painted {session : Session} {frame : Frame}
    (going : (session.turn frame).ending = none)
    (painted : ∃ picture, (session.turn frame).session.screen.paint
      (session.turn frame).session.machine.display = .ok picture)
    (number : Nat) (notices : List Notice) (requests : List SoundRequest) (ending : ScriptEnd)
    (later : List Frame) :
    (session.play number notices requests ending (frame :: later)).1.map Shown.session =
      (session.turn frame).session ::
        ((session.turn frame).session.play (number + 1) [] [] ending later).1.map
          Shown.session := by
  obtain ⟨picture, painted⟩ := painted
  rw [play]
  dsimp only
  rw [going, painted]
  rfl

theorem playing_of_shown {session : Session} (ready : session.beeper.ready) {number : Nat}
    {notices : List Notice} {requests : List SoundRequest} (quiet : tones requests = [])
    {ending : ScriptEnd} {frames : List Frame} {shown : Shown}
    (member : shown ∈ (session.play number notices requests ending frames).1) :
    shown.session.beeper.playing = shown.session.audible := by
  have front := session.shown_front number notices quiet ending frames
  obtain ⟨turn, told, same⟩ := List.mem_map.mp (front.subset (List.mem_map_of_mem member))
  rw [← (Prod.mk.inj same).1]
  exact (sounded_tellingTurns ready frames).playing turn told

theorem follows_shown {session : Session} (ready : session.beeper.ready)
    (silent : session.beeper.playing = false) (number : Nat) (notices : List Notice)
    {requests : List SoundRequest} (quiet : tones requests = []) (ending : ScriptEnd)
    (frames : List Frame) :
    Follows ((session.play number notices requests ending frames).1.map fun shown =>
      (shown.session.audible, tones shown.requests)) := by
  apply (follows_tellingTurns ready silent frames).of_front
  have front := (session.shown_front number notices quiet ending frames).map
    fun told => (told.1.audible, told.2)
  rwa [List.map_map, List.map_map] at front

/-- What is asked for in a frame that is shown was asked for before the first frame or in a turn. -/
theorem mem_shown_requests {session : Session} {number : Nat} {notices : List Notice}
    {requests : List SoundRequest} {ending : ScriptEnd} {frames : List Frame} {shown : Shown}
    (member : shown ∈ (session.play number notices requests ending frames).1)
    {request : SoundRequest} (asked : request ∈ shown.requests) :
    request ∈ requests ∨ ∃ turn ∈ session.turns frames, request ∈ turn.requests := by
  induction frames generalizing session number notices requests with
  | nil => contradiction
  | cons frame later ih =>
    rw [play] at member
    dsimp only at member
    split at member
    · contradiction
    · contradiction
    · rename_i picture going painted
      rw [turns, Turn.picture?, going, painted]
      rcases List.mem_cons.mp member with rfl | member
      · rcases List.mem_append.mp asked with asked | asked
        · exact .inl asked
        · exact .inr ⟨_, List.mem_cons_self .., asked⟩
      · rcases ih member with asked | ⟨turn, among, asked⟩
        · contradiction
        · exact .inr ⟨turn, List.mem_cons_of_mem _ among, asked⟩

/-- A beeper with nothing to play asks for nothing in any turn. -/
theorem requests_of_silent {session : Session} (silent : session.beeper.ready = false)
    (frames : List Frame) : ∀ turn ∈ session.turns frames, turn.requests = [] := by
  induction frames generalizing session with
  | nil =>
    intro turn member
    contradiction
  | cons frame later ih =>
    intro turn member
    obtain ⟨told, ended⟩ := session.turn_sound frame
    rcases List.mem_cons.mp member with rfl | member
    · by_cases going : (session.turn frame).ending = none
      · rw [(told going).2, Beeper.requests, silent]
        rfl
      · exact ended going
    · split_ifs at member with painted
      · obtain ⟨beeper, _⟩ := told (Turn.going_of_picture painted)
        apply ih _ turn member
        rw [beeper, Beeper.update, silent, if_neg Bool.false_ne_true]
        exact silent
      · contradiction

/-- A session with nothing to play asks for nothing but the preparation of its device. -/
theorem preparation_of_shown {session : Session} (silent : session.beeper.ready = false)
    {number : Nat} {notices : List Notice} {ending : ScriptEnd} {frames : List Frame}
    {shown : Shown}
    (member : shown ∈ (session.play number notices [Beeper.preparation] ending frames).1)
    {request : SoundRequest} (asked : request ∈ shown.requests) :
    request = Beeper.preparation := by
  rcases mem_shown_requests member asked with early | ⟨turn, among, late⟩
  · exact List.mem_singleton.mp early
  · rw [requests_of_silent silent frames turn among] at late
    contradiction

theorem requests_of_ended {session : Session} {frames : List Frame} {turn : Turn}
    (member : turn ∈ session.turns frames) (ended : turn.ending ≠ none) : turn.requests = [] := by
  obtain ⟨before, frame, rfl⟩ := exists_of_mem_turns member
  exact (before.turn_sound frame).2 ended

/-- Whatever the settings, the program and the script are: the tone is due while the sound timer is
above zero and the session is not paused. Where there is a device, it plays after a frame that is
shown exactly if the tone is due then, it is started and stopped where that changes, and so in turn.
The same goes for all turns in which the beeper is told, which are one more if the last one cannot
be painted; other turns ask for nothing. Where there is no device, nothing but its preparation is
asked for. -/
theorem beeper_follows_timer (settings : Settings) (host : Host) (name : String)
    (program : List UInt8) (script : Script) :
    let due (session : Session) : Bool :=
      decide (0 < session.machine.timers.sound) && !session.paused
    let showing := present settings host name program script
    (host.channels ≠ 0 →
      (∀ shown ∈ showing.shown, shown.session.beeper.playing = true ↔
        0 < shown.session.machine.timers.sound ∧ shown.session.paused = false) ∧
      Follows (showing.shown.map fun shown => (due shown.session, tones shown.requests)) ∧
      ∀ session requests, opening? settings host name program = some (session, requests) →
        tones requests = [] ∧
        Follows ((session.tellingTurns script.frames).map fun turn =>
          (due turn.session, tones turn.requests)) ∧
        ∀ turn ∈ session.turns script.frames, turn.ending ≠ none → turn.requests = []) ∧
    (host.channels = 0 →
      (∀ shown ∈ showing.shown, ∀ request ∈ shown.requests, request = Beeper.preparation) ∧
      ∀ session requests, opening? settings host name program = some (session, requests) →
        requests = [Beeper.preparation] ∧
        ∀ turn ∈ session.turns script.frames, turn.requests = []) := by
  intro due
  have same : due = audible := rfl
  clear_value due
  subst same
  dsimp only
  cases opens : opening? settings host name program with
  | none =>
    have empty := (present_of_no_opening opens script script).1
    simp only [empty, List.not_mem_nil, false_imp_iff, implies_true, List.map_nil, reduceCtorEq,
      and_true, true_and]
    exact fun _ => .of_changes rfl
  | some opened =>
    obtain ⟨session, requests⟩ := opened
    obtain ⟨notices, plays⟩ := present_of_opening opens
    obtain ⟨_, _, device, _⟩ := parts_of_opening opens
    obtain ⟨quiet, beeper, preparation⟩ := Beeper.opened device
    have shown : (present settings host name program script).shown =
        (session.play 1 notices requests script.ending script.frames).1 :=
      congrArg Showing.shown (plays script)
    simp only [shown, Option.some.injEq, Prod.mk.injEq, and_imp]
    constructor
    · intro working
      have silent : session.beeper.playing = false := by rw [beeper]
      have ready : session.beeper.ready := by
        rw [beeper]
        exact bne_iff_ne.mpr working
      refine ⟨fun frame member => ?_, follows_shown ready silent _ _ quiet _ _, ?_⟩
      · rw [playing_of_shown ready quiet member]
        exact frame.session.audible_iff
      rintro _ _ rfl rfl
      exact ⟨quiet, follows_tellingTurns ready silent _, fun _ => requests_of_ended⟩
    · intro none
      have silent : session.beeper.ready = false := by
        rw [beeper, none]
        rfl
      obtain rfl := preparation none
      constructor
      · intro frame member request asked
        exact preparation_of_shown silent member asked
      · rintro _ _ rfl rfl
        exact ⟨rfl, requests_of_silent silent script.frames⟩

/-- A program that sets the sound timer and then runs on into the empty memory. -/
def toneProgram : List UInt8 := [0x60, 0x05, 0xF0, 0x18]

/-- The tone is due in the first frame; the second one pauses it. -/
def toneScript : Script :=
  ⟨[⟨17, []⟩, ⟨20, [.key .down KeyCode.pause]⟩, ⟨100, []⟩], .interrupt⟩

/-- The beeper plays in the first frame, stops in the second and asks for nothing in the third. -/
theorem stereo_follows_timer :
    let showing := present .standard ⟨2, 0⟩ "tone" toneProgram toneScript
    Follows (showing.shown.map fun shown =>
      (decide (0 < shown.session.machine.timers.sound) && !shown.session.paused,
        tones shown.requests)) ∧
      showing.shown.map (fun shown => tones shown.requests) = [[.play], [.stop], []] := by
  have follows := ((beeper_follows_timer .standard ⟨2, 0⟩ "tone" toneProgram toneScript).1
    (by decide)).2.1
  refine ⟨follows, ?_⟩
  have seen : (opening? .standard ⟨2, 0⟩ "tone" toneProgram).map (fun (session, _) =>
      let first := session.turn ⟨17, []⟩
      let second := first.session.turn ⟨20, [.key .down KeyCode.pause]⟩
      let third := second.session.turn ⟨100, []⟩
      [first, second, third].map fun turn =>
        (turn.ending, turn.session.screen, turn.session.audible)) =
      some [(none, ⟨20, .white, .black⟩, true), (none, ⟨20, .white, .black⟩, false),
        (none, ⟨20, .white, .black⟩, false)] := by decide +kernel
  have paints (display : Display) :
      ∃ picture, (⟨20, .white, .black⟩ : Screen).paint display = .ok picture :=
    Screen.exists_paint rfl rfl rfl display
  have dues : (present .standard ⟨2, 0⟩ "tone" toneProgram toneScript).shown.map
      (fun shown => shown.session.audible) = [true, false, false] := by
    cases opens : opening? .standard ⟨2, 0⟩ "tone" toneProgram with
    | none =>
      rw [opens] at seen
      contradiction
    | some opened =>
      obtain ⟨session, requests⟩ := opened
      rw [opens] at seen
      simp only [Option.map_some, List.map_cons, List.map_nil, Option.some.injEq, List.cons.injEq,
        Prod.mk.injEq, and_true] at seen
      obtain ⟨⟨going, screen, due⟩, ⟨going', screen', due'⟩, ⟨going'', screen'', due''⟩⟩ := seen
      obtain ⟨notices, plays⟩ := present_of_opening opens
      calc (present .standard ⟨2, 0⟩ "tone" toneProgram toneScript).shown.map
            (fun shown => shown.session.audible)
          = ((session.play 1 notices requests .interrupt toneScript.frames).1.map
              Shown.session).map audible := by
            rw [List.map_map, congrArg Showing.shown (plays toneScript)]
            rfl
        _ = [true, false, false] := by
            rw [toneScript, play_cons_of_painted going (by rw [screen]; exact paints _),
              play_cons_of_painted going' (by rw [screen']; exact paints _),
              play_cons_of_painted going'' (by rw [screen'']; exact paints _), List.map_cons,
              List.map_cons, List.map_cons, due, due', due'']
            rfl
  have changed := follows.changes
  rw [List.map_map, List.map_map] at changed
  exact changed.trans (congrArg (changes false) dues)

end Session

end Chip8
