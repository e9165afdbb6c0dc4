import Chip8.Command.FileTree
import Chip8.Command.Line
import Chip8.Session

/-! # The command that runs

Runs the program in a file for a user. Settings come from a file, and options of the command line
take precedence over them.
-/

namespace Chip8.Command

/-- The options of the command. -/
inductive RunOption where
  | verbose
  | config
  | cycles
  | scale
  | seed
  | wrap
  | help
deriving DecidableEq, Repr

def runForms : List (OptionForm RunOption) :=
  [⟨.verbose, "--verbose", some 'v', false⟩, ⟨.config, "--config", some 'c', true⟩,
    ⟨.cycles, "--cycles", none, true⟩, ⟨.scale, "--scale", none, true⟩,
    ⟨.seed, "--seed", none, true⟩, ⟨.wrap, "--wrap", none, false⟩, ⟨.help, "--help", none, false⟩]

/-- What the words behind the name of the command ask for. -/
structure RunRequest where
  /-- The path of a file with settings. -/
  config : Option String
  /-- The choices that take precedence over the file. -/
  choices : Settings.Overrides
  /-- The path of the program. -/
  program : String
deriving DecidableEq, Repr

def integerOption (line : Line RunOption) (option : RunOption) (name : String) :
    Except UsageError (Option Int) :=
  match line.value? option with
  | none => .ok none
  | some text =>
    match Text.readInteger? 10 text.toList with
    | some number => .ok (some number)
    | none => .error (.invalidValue name text)

def realOption (line : Line RunOption) (option : RunOption) (name : String) :
    Except UsageError (Option Float) :=
  match line.value? option with
  | none => .ok none
  | some text =>
    match Numeric.readReal? text.toList with
    | some number => .ok (some number)
    | none => .error (.invalidValue name text)

/-- The choices that a command line makes. The option for wrapping can only turn it on. -/
def choicesOf (line : Line RunOption) : Except UsageError Settings.Overrides := do
  let rate ← realOption line .cycles "--cycles"
  let scale ← integerOption line .scale "--scale"
  let seed ← integerOption line .seed "--seed"
  let wrap := if line.has .wrap then some true else none
  .ok { Settings.Overrides.none with rate := rate, scale := scale, seed := seed, wrap := wrap }

/-- The path of the file with settings, which must lead to something. -/
def configOf (tree : FileTree) (line : Line RunOption) : Except UsageError (Option String) :=
  match line.value? .config with
  | none => .ok none
  | some path =>
    if (tree.lookUp? path).isSome then .ok (some path) else .error (.ofPath path)

/-- The path of the program, which must lead to a file. -/
def programOf (tree : FileTree) (line : Line RunOption) : Except UsageError String :=
  match line.arguments with
  | [] => .error (.missingArgument "ROM_FILENAME")
  | path :: extra =>
    match tree.lookUp? path with
    | none => .error (.ofPath path)
    | some .folder => .error (.folder path)
    | some (.file _) => if extra.isEmpty then .ok path else .error (.extraArguments extra)

/-- What the words behind the name of the command ask for; `none` stands for help. -/
def RunRequest.ofWords (tree : FileTree) (words : List String) :
    Except UsageError (Option RunRequest) := do
  let line ← Line.read runForms words
  if line.has .help then .ok none
  else .ok (some ⟨← configOf tree line, ← choicesOf line, ← programOf tree line⟩)

/-- What the command leaves behind. -/
structure RunOutcome where
  /-- The exit status. -/
  status : Nat
  usage : Option UsageError
  /-- The width and the height of the window, if it was opened. -/
  size : Option (Int × Int)
  /-- The frames per second that the host's clock was asked for, if it was. -/
  fps : Option Int
  shown : List Shown
  /-- What was reported after the last frame that was painted. -/
  notices : List Notice
deriving Repr

def statusOf : Ending → Nat
  | .closed => 0
  | .rejected => 1
  | .interrupted => 3
  | .failed _ => 100

def haltNotice (message : String) : Notice :=
  ⟨.info, s!"Execution halted on general error {message}"⟩

def endingNotices : Ending → List Notice
  | .closed => []
  | .rejected => [⟨.info, "ROM rejected"⟩]
  | .interrupted => [⟨.info, "Execution halted by the user"⟩]
  | .failed error => [haltNotice error.message]

/-- The frames and the notices after them with earlier notices put in front. -/
def withEarlier (earlier : List Notice) (shown : List Shown) (notices : List Notice) :
    List Shown × List Notice :=
  match shown with
  | [] => ([], earlier ++ notices)
  | first :: later => ({ first with notices := earlier ++ first.notices } :: later, notices)

/-- Why the settings of a request cannot be had. -/
inductive ConfigError where
  | file (error : FileError)
  | settings (error : SettingsError)
deriving DecidableEq, Repr

def ConfigError.message : ConfigError → String
  | .file error => error.message
  | .settings error => error.message

def settingsOf (tree : FileTree) (request : RunRequest) : Except ConfigError Settings :=
  match request.config with
  | none => .ok (Settings.standard.override request.choices)
  | some path => do
    let content ← (tree.read path).mapError .file
    let settings ← (Settings.ofFile content).mapError .settings
    .ok (settings.override request.choices)

def settingsNotices (tree : FileTree) (request : RunRequest) : List Notice :=
  match request.config with
  | none => []
  | some path => Settings.fileNotices (Path.text path) ((tree.read path).toOption.getD [])

def serve (tree : FileTree) (host : Session.Host) (script : Script) (request : RunRequest) :
    RunOutcome :=
  let earlier := ⟨.info, "C8VM"⟩ :: settingsNotices tree request
  match settingsOf tree request, tree.read request.program with
  | .error error, _ => ⟨100, none, none, none, [], earlier ++ [haltNotice error.message]⟩
  | .ok _, .error error => ⟨100, none, none, none, [], earlier ++ [haltNotice error.message]⟩
  | .ok settings, .ok program =>
    let showing := Session.present settings host (Path.name request.program) program script
    let (shown, notices) :=
      withEarlier earlier showing.shown (showing.notices ++ endingNotices showing.ending)
    ⟨statusOf showing.ending, none, showing.size, showing.fps, shown, notices⟩

def run (tree : FileTree) (host : Session.Host) (script : Script) (words : List String) :
    RunOutcome :=
  match RunRequest.ofWords tree words with
  | .error error => ⟨error.status, some error, none, none, [], []⟩
  | .ok none => ⟨0, none, none, none, [], []⟩
  | .ok (some request) => serve tree host script request

end Chip8.Command
