import Chip8.Command.Run
import Chip8.Proofs.Outcome

/-! # Requests to run a program

What the words behind the command that runs come to: the choices of the command line, the path of a
file with settings, the settings that both of them make up, and the session that the command then
shows (`runsWith_of_settingsOf`).
-/

namespace Chip8.Command

variable {tree : FileTree} {line : Line RunOption} {request : RunRequest}

/-- What the value of an option of a command line means, if the line gives the option. -/
def Line.Means {α : Type} (line : Line RunOption) (option : RunOption) (read : String → Option α)
    (value : Option α) : Prop :=
  match line.value? option with
  | none => value = none
  | some text => ∃ meaning, read text = some meaning ∧ value = some meaning

theorem integerOption_eq_ok {option : RunOption} {name : String} {value : Option Int} :
    integerOption line option name = .ok value ↔
      line.Means option (fun text => Text.readInteger? 10 text.toList) value := by
  rw [integerOption, Line.Means]
  cases line.value? option with
  | none => simp [eq_comm]
  | some text =>
    dsimp only
    cases Text.readInteger? 10 text.toList <;> simp [eq_comm]

theorem realOption_eq_ok {option : RunOption} {name : String} {value : Option Float} :
    realOption line option name = .ok value ↔
      line.Means option (fun text => Numeric.readReal? text.toList) value := by
  rw [realOption, Line.Means]
  cases line.value? option with
  | none => simp [eq_comm]
  | some text =>
    dsimp only
    cases Numeric.readReal? text.toList <;> simp [eq_comm]

/-- The choices of a command line: those of its four options and no others. -/
theorem choicesOf_eq_ok {choices : Settings.Overrides} (chosen : choicesOf line = .ok choices) :
    ∃ rate scale seed,
      line.Means .cycles (fun text => Numeric.readReal? text.toList) rate ∧
        line.Means .scale (fun text => Text.readInteger? 10 text.toList) scale ∧
        line.Means .seed (fun text => Text.readInteger? 10 text.toList) seed ∧
        choices = { Settings.Overrides.none with
          rate := rate, scale := scale, seed := seed,
          wrap := if line.has .wrap then some true else none } := by
  unfold choicesOf at chosen
  obtain ⟨rate, cycles, chosen⟩ := Outcome.bind_eq_ok.mp chosen
  obtain ⟨scale, scaled, chosen⟩ := Outcome.bind_eq_ok.mp chosen
  obtain ⟨seed, seeded, chosen⟩ := Outcome.bind_eq_ok.mp chosen
  cases chosen
  exact ⟨rate, scale, seed, realOption_eq_ok.mp cycles, integerOption_eq_ok.mp scaled,
    integerOption_eq_ok.mp seeded, rfl⟩

/-- A request is made by a command line that does not ask for help. -/
theorem line_of_request {words : List String}
    (asked : RunRequest.ofWords tree words = .ok (some request)) :
    ∃ line, Line.read runForms words = .ok line ∧ line.has .help = false ∧
      configOf tree line = .ok request.config ∧ choicesOf line = .ok request.choices ∧
      programOf tree line = .ok request.program := by
  obtain ⟨line, read, asked⟩ := Outcome.bind_eq_ok.mp asked
  refine ⟨line, read, ?_⟩
  split at asked
  · cases asked
  · rename_i helpless
    obtain ⟨config, configured, asked⟩ := Outcome.bind_eq_ok.mp asked
    obtain ⟨choices, chosen, asked⟩ := Outcome.bind_eq_ok.mp asked
    obtain ⟨program, named, asked⟩ := Outcome.bind_eq_ok.mp asked
    cases asked
    exact ⟨Bool.eq_false_iff.mpr helpless, configured, chosen, named⟩

/-- The program that a command line names can be read. -/
theorem read_programOf {path : String} (named : programOf tree line = .ok path) :
    ∃ program, tree.read path = .ok program := by
  unfold programOf at named
  split at named
  · cases named
  split at named
  · cases named
  · cases named
  · rename_i program there
    split at named
    · cases named
      exact ⟨program, by rw [FileTree.read, there]⟩
    · cases named

/-- The settings that a request has before the command line overrides them. -/
def Configured (tree : FileTree) (request : RunRequest) (given : Settings) : Prop :=
  match request.config with
  | none => given = .standard
  | some path => ∃ content, tree.read path = .ok content ∧ Settings.ofFile content = .ok given

theorem settingsOf_eq_ok {settings : Settings} :
    settingsOf tree request = .ok settings ↔
      ∃ given, Configured tree request given ∧ settings = given.override request.choices := by
  rw [settingsOf]
  unfold Configured
  cases request.config with
  | none => simp [eq_comm]
  | some path =>
    constructor
    · intro found
      obtain ⟨content, reads, found⟩ := Outcome.bind_eq_ok.mp found
      obtain ⟨given, gives, found⟩ := Outcome.bind_eq_ok.mp found
      cases found
      exact ⟨given, ⟨content, Outcome.mapError_eq_ok.mp reads, Outcome.mapError_eq_ok.mp gives⟩,
        rfl⟩
    · rintro ⟨given, ⟨content, reads, gives⟩, rfl⟩
      refine Outcome.bind_eq_ok.mpr ⟨content, Outcome.mapError_eq_ok.mpr reads, ?_⟩
      exact Outcome.bind_eq_ok.mpr ⟨given, Outcome.mapError_eq_ok.mpr gives, rfl⟩

/-! ## Sessions -/

/-- What the command leaves behind is what there is to see of a session, with notices from before it
in front of those of its first frame. -/
structure Shows (outcome : RunOutcome) (earlier : List Notice) (showing : Showing) : Prop where
  status : outcome.status = statusOf showing.ending
  usage : outcome.usage = none
  size : outcome.size = showing.size
  fps : outcome.fps = showing.fps
  frames : (outcome.shown, outcome.notices) =
    withEarlier earlier showing.shown (showing.notices ++ endingNotices showing.ending)

/-- Words make the command show the program of a request with some settings, whatever the host and
its script are. -/
def RunsWith (tree : FileTree) (words : List String) (request : RunRequest)
    (settings : Settings) : Prop :=
  ∃ program, tree.read request.program = .ok program ∧ ∀ host script,
    Shows (run tree host script words) (⟨.info, "C8VM"⟩ :: settingsNotices tree request)
      (Session.present settings host (Path.name request.program) program script)

/-- A request that has settings is run with them. -/
theorem runsWith_of_settingsOf {words : List String} {settings : Settings}
    (asked : RunRequest.ofWords tree words = .ok (some request))
    (found : settingsOf tree request = .ok settings) : RunsWith tree words request settings := by
  obtain ⟨line, _, _, _, _, named⟩ := line_of_request asked
  obtain ⟨program, reads⟩ := read_programOf named
  refine ⟨program, reads, fun host script => ?_⟩
  have served : run tree host script words = serve tree host script request := by rw [run, asked]
  rw [served, serve, found, reads]
  exact ⟨rfl, rfl, rfl, rfl, rfl⟩

end Chip8.Command
