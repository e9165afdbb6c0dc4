import Chip8.Proofs.Assembly.Literals
import Chip8.Proofs.Command.Requests
import Chip8.Proofs.Session.Pausing
import Chip8.Proofs.Settings.Keymaps
import Chip8.Proofs.Toml.Equality

/-! # Keys that reach the keypad

A keyboard of a keymap whose numbers all belong to keys moves nothing but keys: whatever code a key
of the host has, its move does nothing or sets the flag of one key. Documents give no other keymaps,
and a session keeps the keyboard that it begins with, so this holds of every key event that any run
meets (`only_keys_are_moved`).
-/

namespace Chip8

/-! ## Keyboards -/

namespace Keyboard

/-- All numbers that the codes of a keyboard stand for belong to keys of the keypad. -/
def OnKeypad (keyboard : Keyboard) : Prop := ∀ entry ∈ keyboard.keys, ∃ key : Key, entry.2 = key.val

theorem OnKeypad.assign {keyboard : Keyboard} (onKeypad : keyboard.OnKeypad) (code : KeyCode)
    (key : Key) : (keyboard.assign code key.val).OnKeypad := by
  intro entry member
  rcases List.mem_append.mp member with before | added
  · exact onKeypad entry (List.mem_of_mem_filter before)
  · rw [List.mem_singleton.mp added]
    exact ⟨key, rfl⟩

theorem OnKeypad.ofKeymap {keymap : Keymap} (onKeypad : keymap.OnKeypad) :
    (ofKeymap keymap).OnKeypad := by
  refine List.foldlRecOn keymap _ (motive := OnKeypad) ?_ ?_
  · intro entry member
    contradiction
  · intro keyboard before entry member
    obtain ⟨key, number⟩ := onKeypad entry member
    split
    · rw [number]
      exact before.assign _ key
    · exact before

theorem OnKeypad.numberOf? {keyboard : Keyboard} (onKeypad : keyboard.OnKeypad) {code : KeyCode}
    {number : Int} (stands : keyboard.numberOf? code = some number) :
    ∃ key : Key, number = key.val := by
  obtain ⟨entry, found, rfl⟩ := Option.map_eq_some_iff.mp stands
  exact onKeypad entry (List.mem_of_find?_eq_some found)

end Keyboard

/-! ## Moves -/

namespace Turn

/-- What the move of a key of the host comes to: nothing if its code stands for no number, and else
the flag of one key, which is set if the key goes down and cleared if it goes up. All other flags
and all other parts of the machine stay, and there is nothing to report. -/
def MovesKeyOnly (turn : Turn) (move : KeyMove) (code : KeyCode) : Prop :=
  let machine := turn.session.machine
  let after := turn.moveKey move code
  (turn.session.keyboard.numberOf? code = none ∧ after = turn) ∨
    ∃ key : Key, turn.session.keyboard.numberOf? code = some (key.val : Int) ∧
      after.session.machine = { machine with keypad := after.session.machine.keypad } ∧
      (∀ number, after.session.machine.keypad.isPressed number =
        if number = key.val then decide (move = .down) else machine.keypad.isPressed number) ∧
      after.notices = turn.notices

theorem movesKeyOnly {turn : Turn} (onKeypad : turn.session.keyboard.OnKeypad) (move : KeyMove)
    (code : KeyCode) : turn.MovesKeyOnly move code := by
  cases stands : turn.session.keyboard.numberOf? code with
  | none =>
    refine .inl ⟨stands, ?_⟩
    simp only [moveKey, Keyboard.handle, Keyboard.handleNotices, stands, List.append_nil]
  | some number =>
    obtain ⟨key, rfl⟩ := onKeypad.numberOf? stands
    refine .inr ⟨key, stands, ?_⟩
    simp only [moveKey, Keyboard.handle, Keyboard.handleNotices, stands]
    cases move with
    | down =>
      refine ⟨rfl, Keypad.isPressed_of_set (turn.session.machine.keypad.keys_press key), ?_⟩
      simp [Keypad.pressNotices, key.ofNumber?_val]
    | up =>
      refine ⟨rfl, Keypad.isPressed_of_set (turn.session.machine.keypad.keys_release key), ?_⟩
      simp [Keypad.releaseNotices, key.ofNumber?_val]

end Turn

/-! ## Runs -/

namespace Session

/-- The events that a session meets in a row of frames. With each of them comes what the events in
front of it in its frame have left; what stands behind an ending is not met. -/
inductive Meets : Session → List Frame → Turn → Event → Prop
  | here {session : Session} {frame : Frame} {later : List Frame} {front back : List Event}
      {event : Event} : frame.Readable → frame.events = front ++ event :: back →
      (session.handled front).ending = none →
      Meets session (frame :: later) (session.handled front) event
  | later {session : Session} {frame : Frame} {later : List Frame} {turn : Turn} {event : Event} :
      (session.turn frame).picture?.isSome → Meets (session.turn frame).session later turn event →
      Meets session (frame :: later) turn event

theorem handled_keyboard (session : Session) (events : List Event) :
    (session.handled events).session.keyboard = session.keyboard :=
  ((Turn.ofSession session).sameEquipment_foldl events).keyboard

theorem turn_keyboard (session : Session) (frame : Frame) :
    (session.turn frame).session.keyboard = session.keyboard := by
  cases reading : frame.seconds with
  | error fault =>
    rw [turn, reading]
    rfl
  | ok seconds =>
    have sounded (turn : Turn) : turn.sound.session.keyboard = turn.session.keyboard := by
      unfold Turn.sound
      split <;> rfl
    rw [session.turn_of_seconds reading, sounded, (Turn.sameEquipment_passTime _ seconds).keyboard,
      handled_keyboard]

theorem Meets.keyboard {session : Session} {frames : List Frame} {turn : Turn} {event : Event}
    (meets : Meets session frames turn event) : turn.session.keyboard = session.keyboard := by
  induction meets with
  | here => exact handled_keyboard _ _
  | later _ _ ih => exact ih.trans (turn_keyboard _ _)

theorem keyboard_of_opening {settings : Settings} {host : Host} {name : String}
    {program : List UInt8} {session : Session} {requests : List SoundRequest}
    (opens : opening? settings host name program = some (session, requests)) :
    session.keyboard = .ofKeymap settings.keymap := by
  unfold opening? at opens
  split at opens
  · cases opens
    rfl
  · contradiction

end Session

namespace Command

/-- Every run gets its keymap from a document or keeps the standard one. -/
theorem onKeypad_settingsOf {tree : FileTree} {words : List String} {request : RunRequest}
    {settings : Settings} (asked : RunRequest.ofWords tree words = .ok (some request))
    (found : settingsOf tree request = .ok settings) : settings.keymap.OnKeypad := by
  obtain ⟨given, configured, rfl⟩ := settingsOf_eq_ok.mp found
  obtain ⟨line, _, _, _, chosen, _⟩ := line_of_request asked
  obtain ⟨_, _, _, _, _, _, choices⟩ := choicesOf_eq_ok chosen
  have kept : (given.override request.choices).keymap = given.keymap := by rw [choices]; rfl
  rw [kept]
  unfold Configured at configured
  split at configured
  · rw [configured]
    exact Keymap.onKeypad_standard
  · obtain ⟨content, _, gives⟩ := configured
    obtain ⟨document, _, gives⟩ := Settings.ofFile_eq_ok.mp gives
    exact (Settings.keymap_ofDocument gives).1

end Command

/-! ## A number that cannot be written -/

namespace Keymap

/-- A number of so many digits in base sixteen and one more, each of them the greatest. -/
def greatest (count : Nat) : Assembly.Literal :=
  .hexadecimal false (List.replicate (count + 1) 'f')

theorem le_value_greatest (count : Nat) : 16 ^ count ≤ (greatest count).value := by
  have large : 16 ^ count ≤ Nat.ofDigits 16 (List.replicate (count + 1) 15) := by
    induction count with
    | zero => decide
    | succ count ih =>
      rw [List.replicate_succ, Nat.ofDigits_cons, pow_succ]
      omega
  simp only [greatest, Assembly.Literal.value, Assembly.Literal.digits, Assembly.Literal.base,
    List.reverse_replicate, List.map_replicate]
  exact large

theorem greatest_outside {count : Nat} (positive : 0 < count) :
    ¬(0 ≤ ((greatest count).value : Int) ∧ ((greatest count).value : Int) < 16) := by
  have large := le_value_greatest count
  have more : 16 ≤ 16 ^ count := Nat.le_self_pow positive.ne' 16
  omega

theorem numberOf_greatest (count : Nat) :
    numberOf (.text (String.ofList (greatest count).digits)) =
      .ok ((greatest count).value : Int) := by
  have valid : (greatest count).Valid := by
    refine ⟨List.cons_ne_nil _ _, ?_⟩
    intro c member
    rw [List.eq_of_mem_replicate member]
    rfl
  have reads : Text.readInteger? 16 (greatest count).digits =
      some ((greatest count).value : Int) := by
    rw [Assembly.Literal.readInteger?_plain 16 fun c member => (valid.plain c member).1]
    exact congrArg _ (valid.readMagnitude? trivial)
  rw [numberOf, Toml.Value.integerOfText, String.toList_ofList, reads]

/-- A document with a keymap of one entry, whose number cannot be written if it has many digits. -/
def oneLongKey (count : Nat) : Toml.Entries :=
  [("keys", .table [("K_x", .text (String.ofList (greatest count).digits))])]

theorem ofDocument_oneLongKey {count : Nat} (many : 10 ^ Text.maxDecimalDigits ≤ 16 ^ count)
    (positive : 0 < count) : Settings.ofDocument (oneLongKey count) = .error .keyTooLong := by
  have emulator : Settings.table? (oneLongKey count) "emulator" = .ok none := rfl
  have keys : Settings.table? (oneLongKey count) "keys" =
      .ok (some ([] ++ [("K_x", .text (String.ofList (greatest count).digits))])) := rfl
  have long : Text.isTooLong (greatest count).value :=
    (Text.isTooLong_iff _).mpr (many.trans (le_value_greatest count))
  rw [Settings.ofDocument_outside (numberOf_greatest count) (greatest_outside positive) emulator
    (List.forall_mem_nil _) keys (List.forall_mem_nil _), refusal, if_pos long]

end Keymap

/-! ## Every key event -/

namespace Session

/-- Whatever a document says, only keys of the keypad are moved. A document that gives settings maps
every name of its table of keys to a key, or keeps the standard keymap, which does so too. An entry
whose number belongs to no key keeps the document from giving settings; if nothing in front of it is
faulty it is the one that is told, with its number as long as that can be written. So in every run
and for every key event that it meets, the move of the key does nothing or sets or clears the flag
of one key. -/
theorem only_keys_are_moved (content : List UInt8) :
    (∀ settings, Settings.ofFile content = .ok settings →
      settings.keymap.OnKeypad ∧
        ∃ document, Settings.readDocument content = .ok document ∧
          ((Settings.table? document "keys" = .ok none ∧ settings.keymap = .standard) ∨
            ∃ keys, Settings.table? document "keys" = .ok (some keys) ∧
              Keymap.Maps keys settings.keymap)) ∧
    (∀ (document front back : Toml.Entries) (entry : String × Toml.Value) (number : Int),
      Settings.readDocument content = .ok document →
      Settings.table? document "keys" = .ok (some (front ++ entry :: back)) →
      Keymap.numberOf entry.2 = .ok number → ¬(0 ≤ number ∧ number < 16) →
      (∃ error, Settings.ofFile content = .error error) ∧
        ∀ table, Settings.table? document "emulator" = .ok table →
          (∀ setting ∈ table.getD [], Setting.Readable setting) →
          (∀ earlier ∈ front, ∃ key : Key, Keymap.numberOf earlier.2 = .ok key.val) →
          ∃ error, Settings.ofFile content = .error error ∧
            (number.natAbs < 10 ^ Text.maxDecimalDigits →
              error.message = s!"Key {entry.1} maps outside the keypad: {number}") ∧
            (10 ^ Text.maxDecimalDigits ≤ number.natAbs → error.message = Text.tooLongText)) ∧
    ∀ (tree : Command.FileTree) (words : List String) (request : Command.RunRequest)
      (settings : Settings), Command.RunRequest.ofWords tree words = .ok (some request) →
      Command.settingsOf tree request = .ok settings →
      ∀ (host : Host) (name : String) (program : List UInt8) (session : Session)
        (requests : List SoundRequest),
        opening? settings host name program = some (session, requests) →
        ∀ (frames : List Frame) (turn : Turn) (move : KeyMove) (code : KeyCode),
          Meets session frames turn (.key move code) → turn.MovesKeyOnly move code := by
  refine ⟨?_, ?_, ?_⟩
  · intro settings gives
    obtain ⟨document, read, gives⟩ := Settings.ofFile_eq_ok.mp gives
    obtain ⟨onKeypad, source⟩ := Settings.keymap_ofDocument gives
    exact ⟨onKeypad, document, read, source⟩
  · intro document front back entry number read named reads outside
    have file : Settings.ofFile content = Settings.ofDocument document := by
      rw [Settings.ofFile, read]
      rfl
    rw [file]
    constructor
    · cases gives : Settings.ofDocument document with
      | error error => exact ⟨error, rfl⟩
      | ok settings =>
        have member : entry ∈ front ++ entry :: back :=
          List.mem_append_right _ (List.mem_cons_self ..)
        exact absurd gives (Settings.ofDocument_ne_ok reads outside named member settings)
    · intro table found readable through
      exact ⟨_, Settings.ofDocument_outside reads outside found readable named through,
        Keymap.message_refusal entry.1, Keymap.message_refusal_of_long entry.1⟩
  · intro tree words request settings asked found host name program session requests opens frames
      turn move code meets
    apply Turn.movesKeyOnly
    rw [meets.keyboard, keyboard_of_opening opens]
    exact .ofKeymap (Command.onKeypad_settingsOf asked found)

/-- It is not true that the first entry whose number belongs to no key is always named. -/
theorem longKey_not_named :
    ¬∀ (document front back : Toml.Entries) (entry : String × Toml.Value) (number : Int),
      Settings.table? document "emulator" = .ok none →
      Settings.table? document "keys" = .ok (some (front ++ entry :: back)) →
      (∀ earlier ∈ front, ∃ key : Key, Keymap.numberOf earlier.2 = .ok key.val) →
      Keymap.numberOf entry.2 = .ok number → ¬(0 ≤ number ∧ number < 16) →
      ∃ error, Settings.ofDocument document = .error error ∧
        error.message = s!"Key {entry.1} maps outside the keypad: {number}" := by
  intro named
  have many : 10 ^ Text.maxDecimalDigits ≤ 16 ^ 3599 := by decide +kernel
  obtain ⟨error, refused, message⟩ := named (Keymap.oneLongKey 3599) [] [] _ _ rfl rfl
    (List.forall_mem_nil _) (Keymap.numberOf_greatest 3599) (Keymap.greatest_outside (by decide))
  rw [Keymap.ofDocument_oneLongKey many (by decide)] at refused
  cases refused
  exact Keymap.tooLongText_ne _ _ message

def ownKeys : List UInt8 :=
  "[emulator]\nscale = 8\n[keys]\nK_x = \"f\"\nK_q = 3.0\n".toUTF8.toList

/-- A file that maps a name to a key and two to numbers that belong to none. -/
def noSuchKeys : List UInt8 := "[keys]\nK_q = true\nK_x = 16\nK_w = -1\n".toUTF8.toList

theorem ownKeys_are_moved :
    (∃ settings, Settings.ofFile ownKeys = .ok settings ∧ settings.keymap.OnKeypad) ∧
      (∃ error, Settings.ofFile noSuchKeys = .error error ∧
        error.message = "Key K_x maps outside the keypad: 16") ∧
      ∃ session turn, Meets session [⟨17, [.other, .key .down 120]⟩] turn (.key .down 120) ∧
        turn.session.keyboard.numberOf? 120 = some 15 ∧ turn.MovesKeyOnly .down 120 := by
  obtain ⟨accepted, _, moved⟩ := only_keys_are_moved ownKeys
  obtain ⟨_, refused, _⟩ := only_keys_are_moved noSuchKeys
  let settings : Settings :=
    { Settings.standard with scale := 8, keymap := [("K_x", 15), ("K_q", 3)] }
  have gives : Settings.ofFile ownKeys = .ok settings := by decide +kernel
  refine ⟨⟨settings, gives, (accepted _ gives).1⟩, ?_, ?_⟩
  · have read : Settings.readDocument noSuchKeys = .ok [("keys", .table
        ([("K_q", .boolean true)] ++ ("K_x", .integer 16) :: [("K_w", .integer (-1))]))] := by
      decide +kernel
    obtain ⟨error, fails, message, _⟩ := (refused _ _ _ _ _ read rfl rfl (by decide)).2 none rfl
      (List.forall_mem_nil _) (List.forall_mem_singleton.mpr ⟨1, rfl⟩)
    exact ⟨error, fails, message (by decide +kernel)⟩
  · let tree : Command.FileTree := ⟨[(["keys.toml"], ownKeys), (["game"], [0x12, 0x00])], []⟩
    let request : Command.RunRequest := ⟨some "keys.toml", .none, "game"⟩
    have asked : Command.RunRequest.ofWords tree ["--config", "keys.toml", "game"] =
        .ok (some request) := by decide +kernel
    have found : Command.settingsOf tree request = .ok settings := by decide +kernel
    have opens : (opening? settings ⟨0, 0⟩ "game" [0x12, 0x00]).isSome := by decide +kernel
    obtain ⟨⟨session, requests⟩, opens⟩ := Option.isSome_iff_exists.mp opens
    have meets : Meets session [⟨17, [.other, .key .down 120]⟩] (session.handled [.other])
        (.key .down 120) := .here ⟨_, rfl⟩ rfl rfl
    refine ⟨session, _, meets, ?_,
      moved _ _ _ _ asked found _ _ _ _ _ opens _ _ .down 120 meets⟩
    rw [meets.keyboard, keyboard_of_opening opens]
    decide +kernel

end Session

end Chip8
